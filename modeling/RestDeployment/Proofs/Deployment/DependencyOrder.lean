import RestDeployment.Proofs.Adoption.Position
import RestDeployment.Proofs.Deployment.ApplicationClasses
import RestDeployment.Proofs.Deployment.Descriptors
import RestDeployment.Proofs.Deployment.Isolation
import RestDeployment.Proofs.Metadata.MergeOrder

/-!
# What the order of the dependencies decides

Dependencies are used twice.  A merge unites what they published, and no order is left in what
comes out.  The inspection of a descriptor looks superclasses up in their indexes, and there the
first index that knows a class counts.  So a deployment with the dependencies in another order
tells the same about every unit exactly if every web application still has its first declared
application at the same servlet (`reorder_unchanged_iff`).  If the dependencies of a unit agree on
superclasses, it has.

## Strategy

* The order reaches a scan through the inspection only.  Where this adopts the same servlet, the
  scan is the same but for the dependencies that the unit carries along (`survey_reorder`), and all
  units publish the same (`published_reorder`).
* What a unit inherits differs in the report on its merge, and nothing after that reads the report
  (`UnitState.SameUpToMergeOrder`).
* Conversely, what is reported shows whether a servlet was adopted, and the descriptor of a unit
  with an adopted servlet shows which one, since it is not touched any more.
-/

namespace RestDeployment

/-! ### Other orders -/

/-- The same unit with other dependencies. -/
def BuildUnit.withDependencies (u : BuildUnit) (ds : List String) : BuildUnit :=
  { u with dependencies := ds }

/-- The description of a deployment with the dependencies of each unit in an order of its own. -/
def Manifest.reorder (order : UnitManifest → List String) (m : Manifest) : Manifest :=
  { m with units := m.units.map fun u => { u with dependencies := order u } }

namespace Deployment

/-- Two states of a unit differ in nothing but its dependencies and the order in which the report
on its merge names them. -/
structure UnitState.SameUpToMergeOrder (x x' : UnitState) : Prop where
  same : x' = { x with unit := x.unit.withDependencies x'.unit.dependencies, merge := x'.merge }
  merge : Option.Rel MergeReport.SameUpToOrder x.merge x'.merge

/-- Two reports on a unit differ in nothing but the order in which the report on its merge names
the dependencies. -/
structure UnitReport.SameUpToMergeOrder (x x' : UnitReport) : Prop where
  same : x' = { x with merge := x'.merge }
  merge : Option.Rel MergeReport.SameUpToOrder x.merge x'.merge

/-- Two reports are about the same units, in the same order, and tell the same about each. -/
structure Report.SameUpToMergeOrder (r r' : Report) : Prop where
  deployment : r.deployment = r'.deployment
  units : List.Forall₂ UnitReport.SameUpToMergeOrder r.units r'.units

/-- The position of the first servlet of a descriptor that declares an application. -/
def firstApplication? (config : Config) (m : Manifest) (u : UnitManifest) (web : WebDescriptor) :
    Option Nat :=
  web.servlets.findIdx? (Adoption.declares fun n =>
    (hierarchyOfUnit config m u).descends ⟨n, none⟩ applicationClass)

variable {config : Config} {indexes : Indexes} {m : Manifest} {u : UnitManifest}
  {web : WebDescriptor} {found : Metadata} {name : String} {r r' : Report}
  {order : UnitManifest → List String}

theorem byName_hierarchyOfUnit :
    Adoption.ByName (hierarchyOfUnit config m u) (u.build config).loader fun n =>
      (hierarchyOfUnit config m u).descends ⟨n, none⟩ applicationClass := by
  intro n handle hload
  exact Bool.eq_iff_iff.mpr (descends_iff_seesApplication hload)

theorem firstApplication?_of_candidate {candidate : Option Adoption.Candidate}
    (hcandidate : Adoption.candidate? (hierarchyOfUnit config m u) (u.build config).loader
      web.servlets = .ok candidate) :
    firstApplication? config m u web = candidate.map (·.before.length) :=
  Adoption.findIdx?_of_candidate? byName_hierarchyOfUnit hcandidate

/-! ### Scans that adopt the same servlet -/

section SameAdoption

variable {b : BuildUnit} {ds : List String}
  (hadopt : ∀ web, b.descriptor = some web →
    Adoption.adopt config (hierarchyOf indexes (b.withDependencies ds)) b.loader web =
      Adoption.adopt config (hierarchyOf indexes b) b.loader web)

include hadopt

theorem prepare_withDependencies :
    prepare config indexes (b.withDependencies ds) =
      { prepare config indexes b with
        state := (prepare config indexes b).state.withDependencies ds } := by
  have hdescriptor : (b.withDependencies ds).descriptor = b.descriptor := rfl
  have hloader : (b.withDependencies ds).loader = b.loader := rfl
  cases hweb : b.descriptor with
  | none => simp only [prepare, hdescriptor, hweb]
  | some web =>
      simp only [prepare, hdescriptor, hloader, hweb, hadopt web hweb]
      split <;> rfl

theorem survey_withDependencies :
    survey config indexes (b.withDependencies ds) =
      { survey config indexes b with
        unit := (survey config indexes b).unit.withDependencies ds } := by
  have hclassified : ∀ start, classified config indexes (b.withDependencies ds) start =
      classified config indexes b start := by
    -- a classification reads the index, the loader and the descriptor of a unit
    intro start
    simp only [classified, prepare_withDependencies hadopt]
    rfl
  simp only [survey, hclassified, prepare_withDependencies hadopt]
  split <;> rfl

end SameAdoption

/-! ### What is made of other dependencies -/

section States

variable {lookup : String → Option Metadata} {x x' : UnitState} {ds : List String}

theorem inheriting_withDependencies (hx : x.metadata.Keyed)
    (hlookup : ∀ d c, lookup d = some c → c.Keyed) (hmerge : x.merge = none)
    (hds : x.unit.dependencies.Perm ds) :
    (inheriting lookup x).SameUpToMergeOrder
      (inheriting lookup { x with unit := x.unit.withDependencies ds }) := by
  have hparent : (x.unit.withDependencies ds).parent = x.unit.parent := rfl
  obtain ⟨hmetadata, hreport⟩ := Metadata.mergeAll_perm x.unit.id hx hlookup hds
  unfold inheriting
  simp only [hparent]
  by_cases h : x.unit.parent.isSome = true
  · rw [if_pos h, if_pos h]
    refine ⟨?_, .some hreport⟩
    simp only [droppedFindings, hmetadata, hreport.dropped, BuildUnit.withDependencies]
  · rw [if_neg h, if_neg h]
    exact ⟨rfl, by rw [hmerge]; exact .none⟩

/-- A registration does not look at dependencies, nor at the report on a merge. -/
theorem UnitState.SameUpToMergeOrder.dispatchable (h : x.SameUpToMergeOrder x')
    (hx : Dispatchable config x) : Dispatchable config x' := by
  rw [h.same]
  exact hx

theorem UnitState.SameUpToMergeOrder.dispatched (h : x.SameUpToMergeOrder x') :
    (dispatched config x).SameUpToMergeOrder (dispatched config x') := by
  obtain ⟨hsame, hmerge⟩ := h
  rw [hsame]
  obtain ⟨⟨id, parent, index, loader, dependencies, descriptor⟩, _⟩ := x
  cases descriptor with
  | none => exact ⟨rfl, hmerge⟩
  | some web => exact ⟨rfl, hmerge⟩

theorem UnitState.SameUpToMergeOrder.ofState (h : x.SameUpToMergeOrder x') :
    (UnitReport.ofState x).SameUpToMergeOrder (UnitReport.ofState x') := by
  refine ⟨?_, h.merge⟩
  rw [h.same]
  rfl

end States

/-! ### Units in another order -/

theorem build_reorder (config : Config) (order : UnitManifest → List String) (m : Manifest) :
    (m.reorder order).build config =
      m.units.map fun u => (u.build config).withDependencies (order u) := by
  rw [Manifest.reorder, Manifest.build, List.map_map]
  rfl

theorem map_build {α : Type} (f : BuildUnit → α) :
    (m.build config).map f = m.units.map fun u => f (u.build config) := by
  rw [Manifest.build, List.map_map]
  rfl

theorem map_build_reorder {α : Type} (f : BuildUnit → α) :
    ((m.reorder order).build config).map f =
      m.units.map fun u => f ((u.build config).withDependencies (order u)) := by
  rw [build_reorder, List.map_map]
  rfl

theorem unitNamed_build_reorder (id : String) :
    unitNamed ((m.reorder order).build config) id =
      (m.units.find? fun u => u.id == id).map fun u =>
        (u.build config).withDependencies (order u) := by
  rw [unitNamed, build_reorder, List.find?_map]
  rfl

theorem indexesOf_reorder :
    indexesOf ((m.reorder order).build config) = indexesOf (m.build config) := by
  funext id
  show (unitNamed _ id).map _ = (unitNamed _ id).map _
  rw [unitNamed_build_reorder, unitNamed_build, Option.map_map, Option.map_map]
  rfl

section SameFirst

variable (hfirst : ∀ u ∈ m.units, ∀ web, u.descriptor = some web →
  firstApplication? config (m.reorder order) { u with dependencies := order u } web =
    firstApplication? config m u web)

include hfirst

/-- A scan differs in the dependencies that the unit carries along. -/
theorem survey_reorder (hu : u ∈ m.units) :
    survey config (indexesOf ((m.reorder order).build config))
        ((u.build config).withDependencies (order u)) =
      { survey config (indexesOf (m.build config)) (u.build config) with
        unit := (survey config (indexesOf (m.build config))
          (u.build config)).unit.withDependencies (order u) } := by
  rw [indexesOf_reorder]
  refine survey_withDependencies fun web hweb => ?_
  have hcandidate : Adoption.candidate?
      (hierarchyOfUnit config (m.reorder order) { u with dependencies := order u })
        (u.build config).loader web.servlets =
      Adoption.candidate? (hierarchyOfUnit config m u) (u.build config).loader web.servlets :=
    Adoption.candidate?_congr byName_hierarchyOfUnit byName_hierarchyOfUnit (hfirst u hu web hweb)
  have hhierarchy :
      hierarchyOfUnit config (m.reorder order) { u with dependencies := order u } =
        hierarchyOf (indexesOf (m.build config)) ((u.build config).withDependencies (order u)) := by
    rw [hierarchyOfUnit, indexesOf_reorder]
    rfl
  rw [hhierarchy] at hcandidate
  simp only [Adoption.adopt, hcandidate]

/-- All units publish the same. -/
theorem published_reorder :
    published config ((m.reorder order).build config) = published config (m.build config) := by
  funext id
  show (unitNamed _ id).bind _ = (unitNamed _ id).bind _
  rw [unitNamed_build_reorder, unitNamed_build]
  cases hfind : m.units.find? fun u => u.id == id with
  | none => rw [Option.map_none, Option.map_none, Option.bind_none, Option.bind_none]
  | some u =>
      rw [Option.map_some, Option.map_some, Option.bind_some, Option.bind_some,
        survey_reorder hfirst (List.mem_of_find?_eq_some hfind)]

theorem scannable_reorder (hscan : Scannable config (m.build config)) :
    Scannable config ((m.reorder order).build config) := by
  intro b hb
  rw [build_reorder] at hb
  obtain ⟨u, hu, rfl⟩ := List.mem_map.mp hb
  obtain ⟨found, hfound⟩ := hscan _ (List.mem_map_of_mem hu)
  exact ⟨found, by rw [survey_reorder hfirst hu, hfound]⟩

theorem inheritedState_reorder (hu : u ∈ m.units) (horder : (order u).Perm u.dependencies)
    (hfound : (surveyOf config m u).metadata = .ok found) :
    (inheritedState config (m.build config) (u.build config)).SameUpToMergeOrder
      (inheritedState config ((m.reorder order).build config)
        ((u.build config).withDependencies (order u))) := by
  have hscanned : scannedState config ((m.reorder order).build config)
      ((u.build config).withDependencies (order u)) =
        { scannedState config (m.build config) (u.build config) with
          unit := (scannedState config (m.build config)
            (u.build config)).unit.withDependencies (order u) } := by
    simp only [scannedState, survey_reorder hfirst hu, Survey.found]
  have hkeyed : (scannedState config (m.build config) (u.build config)).metadata.Keyed := by
    rw [scannedState, Survey.found_of_ok hfound]
    exact (wellSorted_survey hfound).keyed
  have hdependencies : (scannedState config (m.build config) (u.build config)).unit.dependencies =
      u.dependencies := by
    rw [scannedState, survey_unit]
    rfl
  rw [inheritedState, inheritedState, published_reorder hfirst, hscanned]
  refine inheriting_withDependencies hkeyed (fun d c hc => (wellSorted_published hc).keyed) rfl ?_
  rw [hdependencies]
  exact horder.symm

/-- A deployment that ends well ends well in the other order and reports the same. -/
theorem resultOf_reorder (horder : ∀ u ∈ m.units, (order u).Perm u.dependencies)
    (hr : resultOf config .full { name := name } (m.build config) = .ok r) :
    ∃ r', resultOf config .full { name := name } ((m.reorder order).build config) = .ok r' ∧
      r.SameUpToMergeOrder r' := by
  obtain ⟨hids, hscan, hdispatch, rfl⟩ := resultOf_full_eq_ok_iff.mp hr
  have hstates : ∀ u ∈ m.units,
      (inheritedState config (m.build config) (u.build config)).SameUpToMergeOrder
        (inheritedState config ((m.reorder order).build config)
          ((u.build config).withDependencies (order u))) := by
    intro u hu
    obtain ⟨found, hfound⟩ := hscan _ (List.mem_map_of_mem hu)
    exact inheritedState_reorder hfirst hu (horder u hu) hfound
  refine ⟨_, resultOf_full_eq_ok_iff.mpr ⟨?_, scannable_reorder hfirst hscan, ?_, rfl⟩, rfl, ?_⟩
  · rw [ids_build] at hids ⊢
    rw [Manifest.reorder, List.map_map]
    exact hids
  · intro b hb
    rw [build_reorder] at hb
    obtain ⟨u, hu, rfl⟩ := List.mem_map.mp hb
    exact (hstates u hu).dispatchable (hdispatch _ (List.mem_map_of_mem hu))
  · rw [map_build, map_build_reorder, List.forall₂_map_left_iff, List.forall₂_map_right_iff,
      List.forall₂_same]
    exact fun u hu => (hstates u hu).dispatched.ofState

end SameFirst

/-! ### What reports show of an adoption -/

section Scanned

variable {candidate : Option Adoption.Candidate}

theorem dispatcherCreated_survey (hweb : u.descriptor = some web)
    (hfound : (surveyOf config m u).metadata = .ok found)
    (hcandidate : Adoption.candidate? (hierarchyOfUnit config m u) (u.build config).loader
      web.servlets = .ok candidate) : found.dispatcherCreated = candidate.isSome := by
  have hbuilt : (u.build config).descriptor = some web := hweb
  obtain ⟨start, hstart, -, rfl⟩ := survey_metadata_eq_ok_iff.mp hfound
  obtain ⟨i, p, hi, -, rfl⟩ := (prepare_result_eq_ok_iff hbuilt).mp hstart
  obtain ⟨-, candidate', hcandidate', rfl⟩ := Adoption.adopt_result_eq_ok_iff.mp hi
  obtain rfl : candidate = candidate' := Except.ok.inj (hcandidate.symm.trans hcandidate')
  rw [classified, (Metadata.sameFlags_classify config _ _).dispatcherCreated]
  exact Option.isSome_map

/-- A descriptor with an adopted servlet is left as the inspection left it. -/
theorem leftDescriptor_of_adopted {c : Adoption.Candidate} (hweb : u.descriptor = some web)
    (hfound : (surveyOf config m u).metadata = .ok found)
    (hcandidate : Adoption.candidate? (hierarchyOfUnit config m u) (u.build config).loader
      web.servlets = .ok (some c)) :
    leftDescriptor config m u = some (Adoption.adopt config (hierarchyOfUnit config m u)
      (u.build config).loader web).state := by
  have hskips : Registration.Skips (registering config m u web).metadata := by
    refine (Registration.Skips.congr sameFlags_classesOf).mpr (.inr ?_)
    rw [Survey.found_of_ok hfound, dispatcherCreated_survey hweb hfound hcandidate]
    rfl
  rw [leftDescriptor_of_web hweb, (Registration.register_of_skips hskips).2]
  rfl

end Scanned

/-- Where the same is reported, the first declared application is at the same servlet. -/
theorem firstApplication?_of_sameUpToMergeOrder {u' : UnitManifest} {m' : Manifest}
    (hweb : u.descriptor = some web) (hweb' : u'.descriptor = some web)
    (hloader : (u'.build config).loader = (u.build config).loader)
    (hscan : ∃ found, (surveyOf config m u).metadata = .ok found)
    (hscan' : ∃ found, (surveyOf config m' u').metadata = .ok found)
    (hsame : (UnitReport.ofState (finalState config (m.build config)
      (u.build config))).SameUpToMergeOrder
        (.ofState (finalState config (m'.build config) (u'.build config)))) :
    firstApplication? config m u web = firstApplication? config m' u' web := by
  obtain ⟨found, hfound⟩ := hscan
  obtain ⟨found', hfound'⟩ := hscan'
  obtain ⟨hconflict, candidate, hcandidate⟩ := exists_candidate_of_survey hweb hfound
  obtain ⟨-, candidate', hcandidate'⟩ := exists_candidate_of_survey hweb' hfound'
  rw [firstApplication?_of_candidate hcandidate, firstApplication?_of_candidate hcandidate']
  have hmetadata : (finalState config (m'.build config) (u'.build config)).metadata =
      (finalState config (m.build config) (u.build config)).metadata :=
    congrArg UnitReport.metadata hsame.same
  have hcreated : candidate'.isSome = candidate.isSome := by
    rw [← dispatcherCreated_survey hweb hfound hcandidate,
      ← dispatcherCreated_survey hweb' hfound' hcandidate', ← Survey.found_of_ok hfound,
      ← Survey.found_of_ok hfound', ← (sameFlags_finalState _ _ _).dispatcherCreated,
      ← (sameFlags_finalState _ _ _).dispatcherCreated, hmetadata]
  cases candidate with
  | none =>
      cases candidate' with
      | none => rfl
      | some c' => cases hcreated
  | some c =>
      cases candidate' with
      | none => cases hcreated
      | some c' =>
          -- no registration comes after an adoption, so the descriptors are those it has left
          have hleft : leftDescriptor config m' u' = leftDescriptor config m u :=
            congrArg UnitReport.descriptor hsame.same
          rw [leftDescriptor_of_adopted hweb hfound hcandidate,
            leftDescriptor_of_adopted hweb' hfound' hcandidate', hloader,
            Option.some.injEq] at hleft
          rw [hloader] at hcandidate'
          exact congrArg some
            (Adoption.length_before_of_adopt hconflict hcandidate hcandidate' hleft.symm)

/-! ### Dependencies that agree -/

/-- The submitted units that a unit depends on do not name different superclasses for a class,
unless the unit has that class itself. -/
def DependenciesAgree (m : Manifest) (u : UnitManifest) : Prop :=
  ∀ n, u.table.class? n = none → ∀ v ∈ m.units, ∀ v' ∈ m.units, v.id ∈ u.dependencies →
    v'.id ∈ u.dependencies → ∀ c c', v.table.class? n = some c → v'.table.class? n = some c' →
      c.superName = c'.superName

theorem dependenciesAgree_of_classes
    (h : ∀ v ∈ m.units, ∀ v' ∈ m.units, v.id ∈ u.dependencies → v'.id ∈ u.dependencies →
      ∀ c ∈ v.classes, ∀ c' ∈ v'.classes, c.name = c'.name → c.superName = c'.superName) :
    DependenciesAgree m u := by
  intro n _ v hv v' hv' hdep hdep' c c' hc hc'
  have hname : c.name = n := ClassTable.keyed_ofList v.classes n c hc
  have hname' : c'.name = n := ClassTable.keyed_ofList v'.classes n c' hc'
  exact h v hv v' hv' hdep hdep' c (ClassTable.mem_of_class?_ofList hc) c'
    (ClassTable.mem_of_class?_ofList hc') (hname.trans hname'.symm)

theorem DependenciesAgree.superclassesAgree (h : DependenciesAgree m u) {n : String}
    (hnone : u.table.class? n = none) :
    Hierarchy.SuperclassesAgree (u.dependencies.filterMap (indexesOf (m.build config))) n := by
  have hsubmitted : ∀ i ∈ u.dependencies.filterMap (indexesOf (m.build config)),
      ∃ v ∈ m.units, v.id ∈ u.dependencies ∧ i = v.table.toIndex := by
    intro i hi
    obtain ⟨d, hd, hindex⟩ := List.mem_filterMap.mp hi
    obtain ⟨b, hb, rfl⟩ := Option.map_eq_some_iff.mp hindex
    obtain ⟨v, hv, rfl⟩ := List.mem_map.mp (List.mem_of_find?_eq_some hb)
    have hid : (v.build config).id = d := by simpa using List.find?_some hb
    rw [← hid] at hd
    exact ⟨v, hv, hd, rfl⟩
  intro i hi i' hi' c c' hc hc'
  obtain ⟨v, hv, hdep, rfl⟩ := hsubmitted i hi
  obtain ⟨v', hv', hdep', rfl⟩ := hsubmitted i' hi'
  exact h n hnone v hv v' hv' hdep hdep' c c' hc hc'

theorem firstApplication?_reorder (h : DependenciesAgree m u)
    (horder : (order u).Perm u.dependencies) :
    firstApplication? config (m.reorder order) { u with dependencies := order u } web =
      firstApplication? config m u web := by
  have hhierarchy :
      hierarchyOfUnit config (m.reorder order) { u with dependencies := order u } =
        ⟨u.table.toIndex :: (order u).filterMap (indexesOf (m.build config))⟩ := by
    rw [hierarchyOfUnit, indexesOf_reorder]
    rfl
  have hagree : ∀ n, u.table.toIndex.classes.get? n = none →
      Hierarchy.SuperclassesAgree (u.dependencies.filterMap (indexesOf (m.build config))) n :=
    fun n hnone => h.superclassesAgree hnone
  have hsees : ∀ n, (hierarchyOfUnit config (m.reorder order)
      { u with dependencies := order u }).descends ⟨n, none⟩ applicationClass =
        (hierarchyOfUnit config m u).descends ⟨n, none⟩ applicationClass := by
    intro n
    rw [hhierarchy]
    exact (Hierarchy.descends_perm (horder.symm.filterMap _) hagree).symm
  simp only [firstApplication?, hsees]

/-! ### Whole deployments -/

/-- With the dependencies in the given order, the deployment ends well and reports the same, up
to the order in which the reports on merges name the dependencies. -/
def UnchangedBy (config : Config) (name : String) (m : Manifest) (schedules : Schedules)
    (order : UnitManifest → List String) (r : Report) : Prop :=
  ∃ r', (runAlong config .full schedules { name := name } ((m.reorder order).build config)).result =
      .ok r' ∧ r.SameUpToMergeOrder r'

/-- **What the order of the dependencies decides.**  A deployment that ends well ends well with the
dependencies in any other order and reports the same exactly if the first declared application of
every web application stays where it is.  It does if the dependencies of every web application
agree on superclasses. -/
theorem reorder_unchanged_iff (config : Config) (name : String) {m : Manifest}
    {order : UnitManifest → List String} (horder : ∀ u ∈ m.units, (order u).Perm u.dependencies)
    {schedules schedules' : Schedules} (h : schedules.Complete (m.build config).length)
    (h' : schedules'.Complete ((m.reorder order).build config).length) {r : Report}
    (hr : (runAlong config .full schedules { name := name } (m.build config)).result = .ok r) :
    (UnchangedBy config name m schedules' order r ↔
        ∀ u ∈ m.units, ∀ web, u.descriptor = some web →
          firstApplication? config (m.reorder order) { u with dependencies := order u } web =
            firstApplication? config m u web) ∧
      ((∀ u ∈ m.units, ∀ web, u.descriptor = some web → DependenciesAgree m u) →
        UnchangedBy config name m schedules' order r) := by
  rw [runAlong_result h] at hr
  rw [UnchangedBy, runAlong_result h']
  refine ⟨⟨?_, fun hfirst => resultOf_reorder hfirst horder hr⟩, fun hagree => ?_⟩
  · rintro ⟨r', hr', -, hunits⟩ u hu web hweb
    obtain ⟨-, hscan, -, rfl⟩ := resultOf_full_eq_ok_iff.mp hr
    obtain ⟨-, hscan', -, rfl⟩ := resultOf_full_eq_ok_iff.mp hr'
    rw [map_build, map_build_reorder, List.forall₂_map_left_iff, List.forall₂_map_right_iff,
      List.forall₂_same] at hunits
    have hmem' : (u.build config).withDependencies (order u) ∈ (m.reorder order).build config := by
      rw [build_reorder]
      exact List.mem_map_of_mem hu
    have hweb' : ({ u with dependencies := order u } : UnitManifest).descriptor = some web := hweb
    exact (firstApplication?_of_sameUpToMergeOrder hweb hweb' rfl
      (hscan _ (List.mem_map_of_mem hu)) (hscan' _ hmem') (hunits u hu)).symm
  · refine resultOf_reorder (fun u hu web hweb => ?_) horder hr
    exact firstApplication?_reorder (hagree u hu web hweb) (horder u hu)

/-- Two libraries with a base class of one name, which the second derives from `base`, and a
contested class; a web application that declares a servlet for a class over the base class. -/
def twoBases (base : Option String) : Manifest where
  deployment := "shop"
  units :=
    [{ id := "a"
       classes := [plainClass "Base" [] (some applicationClass),
         plainClass "Items" [ pathAnnotation] none] },
      { id := "b"
        classes := [plainClass "Base" [] base, plainClass "Items" [ providerAnnotation] none] },
      { id := "web", parent := some "ear", dependencies := ["a", "gone", "b"],
        classes := [plainClass "Shop" [] (some "Base")],
        descriptor := some { servlets := [{ name := "shop", servletClass := some "Shop" }] } }]

/-- The dependencies of a unit from the last to the first. -/
def reversed (u : UnitManifest) : List String := u.dependencies.reverse

/-- If both libraries derive the base class from the application class, the servlet is adopted in
either order, and only the report on the merge differs. -/
theorem reorder_unchanged_iff_twoBases :
    (∀ u ∈ (twoBases (some applicationClass)).units,
      DependenciesAgree (twoBases (some applicationClass)) u) ∧
    ∃ r r' x x', (runFresh {} .full "shop"
        ((twoBases (some applicationClass)).build {})).result = .ok r ∧
      (runFresh {} .full "shop"
        (((twoBases (some applicationClass)).reorder reversed).build {})).result = .ok r' ∧
      r.SameUpToMergeOrder r' ∧ r.unit? "web" = some x ∧ r'.unit? "web" = some x' ∧
      x.metadata.dispatcherCreated = true ∧ x.merge.map (·.merged) = some ["a", "b"] ∧
      x'.merge.map (·.merged) = some ["b", "a"] ∧
      (∀ u ∈ (twoBases (some applicationClass)).units, ∀ web, u.descriptor = some web →
        firstApplication? {} ((twoBases (some applicationClass)).reorder reversed)
            { u with dependencies := reversed u } web =
          firstApplication? {} (twoBases (some applicationClass)) u web) := by
  obtain ⟨r, x, hr, hx, hcheck⟩ := exists_unit?_of_any
    (runFresh {} .full "shop" ((twoBases (some applicationClass)).build {})).result "web"
    (fun x => decide (x.metadata.dispatcherCreated = true ∧
      x.merge.map (·.merged) = some ["a", "b"])) (by decide +kernel)
  obtain ⟨r', x', hr', hx', hcheck'⟩ := exists_unit?_of_any
    (runFresh {} .full "shop"
      (((twoBases (some applicationClass)).reorder reversed).build {})).result "web"
    (fun x => decide (x.merge.map (·.merged) = some ["b", "a"])) (by decide +kernel)
  have horder : ∀ u ∈ (twoBases (some applicationClass)).units,
      (reversed u).Perm u.dependencies := fun u _ => List.reverse_perm _
  obtain ⟨hiff, hagrees⟩ := reorder_unchanged_iff {} "shop" horder (complete_inOrder _)
    (complete_inOrder _) hr
  have hagree : ∀ u ∈ (twoBases (some applicationClass)).units,
      DependenciesAgree (twoBases (some applicationClass)) u :=
    fun u hu => dependenciesAgree_of_classes (by revert u; decide +kernel)
  obtain ⟨r'', hr'', hsame⟩ := hagrees fun u hu _ _ => hagree u hu
  obtain rfl : r' = r'' := Except.ok.inj (hr'.symm.trans hr'')
  obtain ⟨hcreated, hmerged⟩ := of_decide_eq_true hcheck
  exact ⟨hagree, r, r', x, x', hr, hr', hsame, hx, hx', hcreated, hmerged,
    of_decide_eq_true hcheck', hiff.mp ⟨r', hr'', hsame⟩⟩

/-- If the second library derives the base class from nothing, the servlet is adopted in one order
only: then the metadata, the registration and the descriptor differ. -/
theorem not_reorder_unchanged :
    (∀ u ∈ (twoBases none).units, (reversed u).Perm u.dependencies) ∧
    ∃ r r' x x', (runFresh {} .full "shop" ((twoBases none).build {})).result = .ok r ∧
      (runFresh {} .full "shop" (((twoBases none).reorder reversed).build {})).result = .ok r' ∧
      r.unit? "web" = some x ∧ r'.unit? "web" = some x' ∧ x.metadata ≠ x'.metadata ∧
      x.registration ≠ x'.registration ∧ x.descriptor ≠ x'.descriptor := by
  obtain ⟨r, x, hr, hx, hcheck⟩ := exists_unit?_of_any
    (runFresh {} .full "shop" ((twoBases none).build {})).result "web"
    (fun x => decide (x.metadata.dispatcherCreated = true ∧
      x.registration = some (.skipped .dispatcherCreated) ∧
      x.descriptor.map (·.servlets.length) = some 1)) (by decide +kernel)
  obtain ⟨r', x', hr', hx', hcheck'⟩ := exists_unit?_of_any
    (runFresh {} .full "shop" (((twoBases none).reorder reversed).build {})).result "web"
    (fun x => decide (x.metadata.dispatcherCreated = false ∧
      x.registration = some (.defaultServlet true) ∧
      x.descriptor.map (·.servlets.length) = some 2)) (by decide +kernel)
  obtain ⟨hcreated, hregistration, hservlets⟩ := of_decide_eq_true hcheck
  obtain ⟨hcreated', hregistration', hservlets'⟩ := of_decide_eq_true hcheck'
  refine ⟨fun u _ => List.reverse_perm _, r, r', x, x', hr, hr', hx, hx', fun h => ?_, fun h => ?_,
    fun h => ?_⟩
  · rw [h, hcreated'] at hcreated
    cases hcreated
  · rw [h, hregistration'] at hregistration
    cases hregistration
  · rw [h, hservlets'] at hservlets
    cases hservlets

end Deployment

end RestDeployment
