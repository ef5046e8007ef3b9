import RestDeployment.Manifest
import RestDeployment.Proofs.Deployment.Classes

/-!
# A scan-only deployment is the beginning of a full one

Both deployments scan every unit; the scan-only one ends there.  So a full deployment
fails if the scan-only one does, and with the same failure (`resultOf_full_of_scanOnly`).
If it ends well, what it reports about a unit continues what the scan-only deployment
reports (`continuedBy_finalState`): the later phases append findings, servlets and
mappings, and change classes only for a unit with a parent.
-/

namespace RestDeployment.Deployment

variable {config : Config} {session : Session} {units : List BuildUnit} {u : BuildUnit}
  {name : String}

/-! ### Failures -/

/-- Where scanning fails a full deployment ends with the scans. -/
theorem outcome_full_of_failure {failure : Failure}
    (h : (outcome config .scanOnly session units).failure? = some failure) :
    outcome config .full session units = outcome config .scanOnly session units := by
  have hscan : outcome config .scanOnly session units =
      (World.start session units).advance (scan config (indexesOf units)) := by
    simp only [outcome, stepsTo, World.through, ite_self]
  rw [hscan] at h ⊢
  simp only [outcome, stepsTo, World.through, h, Option.isSome_some, if_true]

/-- A full deployment fails as the scan-only deployment does. -/
theorem resultOf_full_of_scanOnly {failure : Failure}
    (h : resultOf config .scanOnly session units = .error failure) :
    resultOf config .full session units = .error failure := by
  unfold resultOf at h ⊢
  cases hclosed : session.closed with
  | true => simpa [hclosed] using h
  | false =>
      cases hrepeated : repeatedId? [] (units.map (·.id)) with
      | some id => simpa [hclosed, hrepeated] using h
      | none =>
          cases hscan : (outcome config .scanOnly session units).failure? with
          | none => simp [hclosed, hrepeated, hscan] at h
          | some first =>
              simp only [hclosed, hrepeated, hscan, Bool.false_eq_true, if_false] at h ⊢
              rw [outcome_full_of_failure hscan, hscan]
              exact h

/-! ### Reports -/

/-- The report on a unit goes on from another: findings, servlets and mappings were
appended, and classes were added only if the unit has a parent. -/
structure UnitReport.ContinuedBy (s x : UnitReport) : Prop where
  findings : s.findings <+: x.findings
  flags : x.metadata.SameFlags s.metadata
  descriptor : Option.Rel WebDescriptor.ExtendedBy s.descriptor x.descriptor
  classes : s.parent = none → x.metadata.SameClasses s.metadata

theorem findings_inheritedState :
    (survey config (indexesOf units) u).findings <+: (inheritedState config units u).findings := by
  unfold inheritedState inheriting
  split
  · exact List.prefix_append _ _
  · exact List.prefix_rfl

theorem findings_finalState :
    (scannedState config units u).findings <+: (finalState config units u).findings := by
  refine findings_inheritedState.trans ?_
  unfold finalState dispatched
  split
  · exact List.prefix_rfl
  · exact List.prefix_append _ _

theorem descriptor_finalState :
    Option.Rel WebDescriptor.ExtendedBy (scannedState config units u).unit.descriptor
      (finalState config units u).unit.descriptor := by
  have hscanned : (scannedState config units u).unit.descriptor =
      (inheritedState config units u).unit.descriptor := by
    rw [inheritedState_unit, scannedState]
  rw [hscanned, finalState, dispatched]
  cases hweb : (inheritedState config units u).unit.descriptor with
  | none =>
      simp only [hweb]
      exact .none
  | some web =>
      exact .some (Registration.extendedBy_register config
        (inheritedState config units u).unit.loader ⟨(inheritedState config units u).metadata, web⟩)

/-- The classes of a unit without parent are those of its scan. -/
theorem sameClasses_finalState_of_parent_eq_none (h : u.parent = none) :
    (finalState config units u).metadata.SameClasses (scannedState config units u).metadata := by
  have hown : classesOf config .full units u = (survey config (indexesOf units) u).found := by
    simp [classesOf, h]
  have hclasses := sameClasses_reportedState config .full units u
  rw [hown] at hclasses
  exact hclasses

theorem continuedBy_finalState (config : Config) (units : List BuildUnit) (u : BuildUnit) :
    (UnitReport.ofState (scannedState config units u)).ContinuedBy
      (.ofState (finalState config units u)) where
  findings := findings_finalState
  flags := sameFlags_finalState config units u
  descriptor := descriptor_finalState
  classes hparent := by
    refine sameClasses_finalState_of_parent_eq_none ?_
    rw [← hparent, UnitReport.ofState, scannedState, survey_unit]

/-! ### The main statement -/

/-- **The scan-only deployment is a prefix of the full one.**  If it fails, so does the
full deployment, with the same failure.  If the full deployment ends well, so does the
scan-only one, and the report on every unit goes on from that of the scans. -/
theorem scanOnly_prefix_full (config : Config) (name : String) {units : List BuildUnit}
    {schedules schedules' : Schedules} (h : schedules.Complete units.length)
    (h' : schedules'.Complete units.length) :
    (∀ failure, (runAlong config .scanOnly schedules { name := name } units).result =
        .error failure →
      (runAlong config .full schedules' { name := name } units).result = .error failure) ∧
      ∀ full, (runAlong config .full schedules' { name := name } units).result = .ok full →
        ∃ scans, (runAlong config .scanOnly schedules { name := name } units).result = .ok scans ∧
          ∀ u ∈ units, ∃ s x, scans.unit? u.id = some s ∧ full.unit? u.id = some x ∧
            s.parent = u.parent ∧ s.ContinuedBy x := by
  rw [runAlong_result h, runAlong_result h']
  refine ⟨fun failure => resultOf_full_of_scanOnly, fun full hfull => ?_⟩
  have hscans := resultOf_scanOnly_of_full hfull
  refine ⟨_, hscans, fun u hu => ⟨_, _, unit?_of_resultOf hscans hu, unit?_of_resultOf hfull hu,
    ?_, continuedBy_finalState config units u⟩⟩
  simp only [UnitReport.ofState, reportedState, scannedState, survey_unit]

/-- A web application that gets a servlet for an application of a library. -/
def libraryApplication : Manifest where
  deployment := "shop"
  units :=
    [{ id := "lib"
       classes := [{ plainClass "Shop" [] (some applicationClass) with
         annotations := [⟨ applicationPathAnnotation, some "/shop"⟩] }] },
      { id := "web", parent := some "shop", dependencies := ["lib"], visible := ["Shop"]
        descriptor := some {} }]

/-- A web application that declares a servlet whose class cannot be loaded. -/
def missingServletClass : Manifest where
  deployment := "shop"
  units := [{ id := "web"
              descriptor := some { servlets := [{ name := "a", servletClass := some "Gone" }] } }]

/-- The scans leave the descriptor as it is and the full deployment adds to it; and both
deployments fail alike where a class is missing. -/
theorem scanOnly_prefix_full_libraryApplication :
    (∃ scans full s x, (runFresh {} .scanOnly "shop" (libraryApplication.build {})).result =
          .ok scans ∧
        (runFresh {} .full "shop" (libraryApplication.build {})).result = .ok full ∧
        scans.unit? "web" = some s ∧ full.unit? "web" = some x ∧ s.ContinuedBy x ∧
        s.descriptor = some {} ∧
        x.registration = some (.applicationServlets ["Shop"] ["Shop"])) ∧
      (runFresh {} .full "shop" (missingServletClass.build {})).result =
        .error ⟨.classNotFound "Gone", some "web"⟩ := by
  obtain ⟨-, hreports⟩ := scanOnly_prefix_full {} "shop"
    (complete_inOrder (libraryApplication.build {})) (complete_inOrder _)
  obtain ⟨hfailure, -⟩ := scanOnly_prefix_full {} "shop"
    (complete_inOrder (missingServletClass.build {})) (complete_inOrder _)
  refine ⟨?_, hfailure _ (by decide +kernel)⟩
  obtain ⟨full, x, hfull, hx, hregistration⟩ := exists_unit?_of_any
    (runFresh {} .full "shop" (libraryApplication.build {})).result "web"
    (fun x => decide (x.registration = some (.applicationServlets ["Shop"] ["Shop"])))
    (by decide +kernel)
  obtain ⟨scans, s, hscans, hs, hdescriptor⟩ := exists_unit?_of_any
    (runFresh {} .scanOnly "shop" (libraryApplication.build {})).result "web"
    (fun s => decide (s.descriptor = some {})) (by decide +kernel)
  obtain ⟨scans', hscans', hunits⟩ := hreports full hfull
  obtain ⟨s', x', hs', hx', -, hcontinued⟩ := hunits (libraryApplication.build {})[1]
    (List.getElem_mem _)
  -- both deployments report on the web application once
  obtain rfl : scans = scans' := Except.ok.inj (hscans.symm.trans hscans')
  obtain rfl : s = s' := Option.some.inj (hs.symm.trans hs')
  obtain rfl : x = x' := Option.some.inj (hx.symm.trans hx')
  exact ⟨scans, full, s, x, hscans, hfull, hs, hx, hcontinued, by simpa using hdescriptor,
    by simpa using hregistration⟩

end RestDeployment.Deployment
