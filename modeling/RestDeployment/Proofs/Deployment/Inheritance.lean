import RestDeployment.Proofs.Deployment.Classes

/-!
# What a unit inherits

A full deployment and the scan-only deployment of the same units are two runs that
have nothing in common but their input.  This file ties them together: the classes
that the full deployment reports for a unit are a union of what the scan-only
deployment reports, over the unit itself and the submitted units in its list of
dependencies.  Nothing comes from units further away, and nothing from what the
dependencies inherited themselves.

The second phase of a full deployment looks dependencies up in `published`, as
`inheritedState` says.  That is what the scan-only deployment reports
(`scans_eq_published`), and the union itself is `Metadata.isUnion_mergeAll`.
-/

namespace RestDeployment.Deployment

variable {config : Config} {units : List BuildUnit} {u : BuildUnit} {name : String}
  {full scans : Report} {m c : Metadata}

/-- The metadata that a report holds under an id. -/
def Report.metadata? (r : Report) (id : String) : Option Metadata :=
  (r.unit? id).map (·.metadata)

/-- What counts for the classes of a unit: the metadata that the scans report for the
unit itself and for the other units in its list of dependencies. -/
def Sources (scans : Report) (u : BuildUnit) (c : Metadata) : Prop :=
  scans.metadata? u.id = some c ∨ ∃ d ∈ u.dependencies, d ≠ u.id ∧ scans.metadata? d = some c

/-- A scan-only deployment reports what its units publish. -/
theorem scans_eq_published (h : resultOf config .scanOnly { name := name } units = .ok scans)
    (id : String) : scans.metadata? id = published config units id := by
  obtain ⟨-, hscan, rfl⟩ := resultOf_scanOnly_eq_ok_iff.mp h
  rw [Report.metadata?, unit?_map fun _ => scannedState_unit_id, published]
  cases hfind : units.find? fun u => u.id == id with
  | none => rfl
  | some u =>
      obtain ⟨m, hm⟩ := hscan u (List.mem_of_find?_eq_some hfind)
      simp only [Option.map_some, Option.bind_some, UnitReport.ofState, scannedState,
        Survey.found_of_ok hm, hm, Except.toOption]

/-- What a merge joins is what the scan-only deployment reports. -/
theorem joined_iff_sources (h : resultOf config .scanOnly { name := name } units = .ok scans)
    (hu : u ∈ units) :
    Metadata.Joined (published config units) u.id (survey config (indexesOf units) u).found
      u.dependencies c ↔ Sources scans u c := by
  obtain ⟨hids, hscan, -⟩ := resultOf_scanOnly_eq_ok_iff.mp h
  obtain ⟨m, hm⟩ := hscan u hu
  simp only [Metadata.Joined, Sources, scans_eq_published h, published_of_mem hids hu hm,
    Survey.found_of_ok hm, Option.some.injEq, eq_comm (a := c)]

/-- **What a unit inherits comes from the scans.**  If a full deployment ends well, so
does the scan-only deployment of the same units.  A unit without parent keeps the
classes of its scan.  A unit with a parent has the classes of its own scan and of those
of its submitted dependencies, united.  The policy and the flags stay as its scan set
them. -/
theorem inherited_from_scans (config : Config) (name : String) {units : List BuildUnit}
    {schedules schedules' : Schedules} (h : schedules.Complete units.length)
    (h' : schedules'.Complete units.length) {full : Report}
    (hfull : (runAlong config .full schedules { name := name } units).result = .ok full) :
    ∃ scans, (runAlong config .scanOnly schedules' { name := name } units).result = .ok scans ∧
      ∀ u ∈ units, ∃ x s, full.unit? u.id = some x ∧ scans.unit? u.id = some s ∧
        x.metadata.SameFlags s.metadata ∧
        (u.parent = none → x.metadata.SameClasses s.metadata) ∧
        (u.parent.isSome → x.metadata.IsUnion (Sources scans u)) := by
  rw [runAlong_result h] at hfull
  have hscans := resultOf_scanOnly_of_full hfull
  refine ⟨_, by rw [runAlong_result h', hscans], fun u hu => ?_⟩
  have hclasses := sameClasses_reportedState config .full units u
  refine ⟨_, _, unit?_of_resultOf hfull hu, unit?_of_resultOf hscans hu, sameFlags_reportedState,
    fun hparent => ?_, fun hparent => ?_⟩
  · -- without a parent nothing is merged
    have hown : classesOf config .full units u = (survey config (indexesOf units) u).found := by
      simp [classesOf, hparent]
    rw [hown] at hclasses
    exact hclasses
  · -- with a parent the merge looks up what the scans reported
    have hmerge : classesOf config .full units u =
        ((survey config (indexesOf units) u).found.mergeAll (published config units) u.id
          u.dependencies).1 := by
      rw [classesOf, if_pos ⟨rfl, hparent⟩]
    have hjoined : Metadata.Joined (published config units) u.id
        (survey config (indexesOf units) u).found u.dependencies = Sources _ u :=
      funext fun c => propext (joined_iff_sources hscans hu)
    have hunion := Metadata.isUnion_mergeAll (published config units) u.id
      (survey config (indexesOf units) u).found u.dependencies
    rw [← hmerge, hjoined] at hunion
    exact hunion.congr hclasses

/-- Two libraries that disagree about the path of an application, and a web application
that names itself, a library twice and a unit that is not there. -/
def disputedPath : Manifest where
  deployment := "shop"
  units :=
    [{ id := "a", classes := [withPath "/b"] },
      { id := "b", parent := some "shop", classes := [withPath "/a"] },
      { id := "web", parent := some "shop", dependencies := ["a", "b", "a", "web", "gone"],
        visible := ["Shop"], descriptor := some {} }]
where
  withPath (path : String) : ClassEntry :=
    { plainClass "Shop" [] (some applicationClass) with
      annotations := [⟨ applicationPathAnnotation, some path⟩] }

/-- The web application has the application with the smaller path, and the library
without parent has what its scan found. -/
theorem inherited_from_scans_disputedPath :
    ∃ full scans x l s, (runFresh {} .full "shop" (disputedPath.build {})).result = .ok full ∧
      (runFresh {} .scanOnly "shop" (disputedPath.build {})).result = .ok scans ∧
      full.unit? "web" = some x ∧ full.unit? "a" = some l ∧ scans.unit? "a" = some s ∧
      l.metadata.SameClasses s.metadata ∧ x.metadata.pathOf "Shop" = some "/a" ∧
      ∃ u ∈ disputedPath.build {}, u.id = "web" ∧ x.metadata.IsUnion (Sources scans u) := by
  obtain ⟨full, x, hfull, hx, hpath⟩ := exists_unit?_of_any
    (runFresh {} .full "shop" (disputedPath.build {})).result "web"
    (fun x => decide (x.metadata.pathOf "Shop" = some "/a")) (by decide +kernel)
  have hlength : (disputedPath.build {}).length = 3 := rfl
  obtain ⟨scans, hscans, hunits⟩ := inherited_from_scans {} "shop" (complete_inOrder _)
    (complete_inOrder _) hfull
  obtain ⟨l, s, hl, hs, -, hown, -⟩ := hunits (disputedPath.build {})[0] (List.getElem_mem _)
  obtain ⟨y, -, hy, -, -, -, hunion⟩ := hunits (disputedPath.build {})[2] (List.getElem_mem _)
  obtain rfl : x = y := Option.some.inj (hx.symm.trans hy)
  exact ⟨full, scans, x, l, s, hfull, hscans, hx, hl, hs, hown rfl, by simpa using hpath, _,
    List.getElem_mem _, rfl, hunion rfl⟩

end RestDeployment.Deployment
