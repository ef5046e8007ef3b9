import RestDeployment.Manifest
import RestDeployment.Proofs.Classification
import RestDeployment.Proofs.Deployment.Published
import RestDeployment.Proofs.Metadata.Merge
import RestDeployment.Proofs.Registration

/-!
# The classes that a deployment reports

Metadata go through three hands: a scan classifies, a merge unites and a
registration sets a flag.  This file follows the classes of a unit through all of
them.  `classesOf` is the metadata with the classes that are reported for a unit;
`sameClasses_reportedState` and `sameFlags_reportedState` tie the report to it.

Two properties are carried along.  The metadata of every scan are `WellSorted`, and
so are those of every report: a class counts in one place.  And they are `Accounted`:
a component to be looked up by name is a resource or an application.  Together these
say which components are missing among the resources, namely the applications that
are `Marked`, that is, session beans among the resource classes of a unit that
contributes to the report.

A unit that inherits nothing is no case of its own: its classes are well sorted, and
merging them with no dependencies changes nothing (`classesOf_eq_mergeAll`).  So what
a merge unites is looked for among the units that contribute (`mem_classesOf`).
-/

namespace RestDeployment.Deployment

open Classification (classify sessionBeans)

variable {config : Config} {extent : Extent} {indexes : Indexes} {units : List BuildUnit}
  {u v : BuildUnit} {m : Metadata} {name n : String} {r : Report} {schedules : Schedules}

/-! ### What a scan publishes -/

/-- The preparation of a scan settles flags and finds no classes. -/
theorem prepare_metadata (h : (prepare config indexes u).result = .ok m) :
    m.WellSorted ∧ m.jndiResources = ∅ ∧ m.applications = ∅ := by
  have hflags : ∀ (p : ScanPolicy) (i : Inspection), (inspectedMetadata p i).WellSorted ∧
      (inspectedMetadata p i).jndiResources = ∅ ∧ (inspectedMetadata p i).applications = ∅ :=
    fun p i => ⟨(Metadata.wellSorted_ofPolicy p).congr ⟨rfl, rfl, rfl, rfl⟩, rfl, rfl⟩
  unfold prepare at h
  cases hweb : u.descriptor with
  | none =>
      rw [hweb] at h
      cases h
      exact ⟨Metadata.wellSorted_ofPolicy _, rfl, rfl⟩
  | some web =>
      simp only [hweb] at h
      cases hadopt : (Adoption.adopt config (hierarchyOf indexes u) u.loader web).result with
      | error fault => simp [hadopt] at h
      | ok inspection =>
          simp only [hadopt] at h
          cases hpolicy : ScanPolicy.ofDescriptor
              (Adoption.adopt config (hierarchyOf indexes u) u.loader web).state
              inspection.hasBootClasses with
          | error fault => simp [hpolicy, Except.map] at h
          | ok p =>
              simp only [hpolicy, Except.map] at h
              cases h
              exact hflags p inspection

/-- A scan that goes well ends with a classification of the unit's own classes,
which began without any. -/
theorem exists_classify_of_survey (h : (survey config indexes u).metadata = .ok m) :
    ∃ input start, input.index = u.index ∧ start.WellSorted ∧ start.jndiResources = ∅ ∧
      (classify config input start).result = .ok () ∧
        m = (classify config input start).state := by
  obtain ⟨start, hprepare, hclassify, rfl⟩ := survey_metadata_eq_ok_iff.mp h
  obtain ⟨hsorted, hjndi, -⟩ := prepare_metadata hprepare
  have hindex : (scanInput (prepare config indexes u).state).index = u.index := by
    rw [scanInput, prepare_state]
  exact ⟨_, start, hindex, hsorted, hjndi, hclassify, rfl⟩

theorem wellSorted_survey (h : (survey config indexes u).metadata = .ok m) : m.WellSorted := by
  obtain ⟨input, start, -, hsorted, -, -, rfl⟩ := exists_classify_of_survey h
  exact hsorted.classify

theorem accounted_survey (h : (survey config indexes u).metadata = .ok m) : m.Accounted := by
  obtain ⟨input, start, -, -, hjndi, -, rfl⟩ := exists_classify_of_survey h
  exact Metadata.accounted_classify hjndi

theorem mem_jndiResources_survey (h : (survey config indexes u).metadata = .ok m) :
    n ∈ m.jndiResources ↔ n ∈ sessionBeans config u.index m.policy := by
  obtain ⟨input, start, hindex, -, hjndi, hok, rfl⟩ := exists_classify_of_survey h
  rw [Classification.mem_jndiResources_classify hok, hjndi, hindex,
    (Metadata.sameFlags_classify config input start).policy]
  exact or_iff_right NameSet.not_mem_empty

/-! ### What is reported -/

/-- The state of a unit that is reported when all goes well. -/
def reportedState (config : Config) (extent : Extent) (units : List BuildUnit) (u : BuildUnit) :
    UnitState :=
  match extent with
  | .scanOnly => scannedState config units u
  | .full => finalState config units u

@[simp] theorem reportedState_unit_id : (reportedState config extent units u).unit.id = u.id := by
  cases extent with
  | scanOnly => exact scannedState_unit_id
  | full => exact finalState_unit_id

/-- A deployment that ends well has scanned every unit and reports on every unit. -/
theorem eq_reports_of_resultOf (h : resultOf config extent { name := name } units = .ok r) :
    (units.map (·.id)).Nodup ∧ Scannable config units ∧
      r = ⟨name, units.map fun u => .ofState (reportedState config extent units u)⟩ := by
  cases extent with
  | scanOnly => exact resultOf_scanOnly_eq_ok_iff.mp h
  | full =>
      obtain ⟨hids, hscan, -, hr⟩ := resultOf_full_eq_ok_iff.mp h
      exact ⟨hids, hscan, hr⟩

theorem unit?_of_resultOf (h : resultOf config extent { name := name } units = .ok r)
    (hu : u ∈ units) : r.unit? u.id = some (.ofState (reportedState config extent units u)) := by
  obtain ⟨hids, -, rfl⟩ := eq_reports_of_resultOf h
  rw [unit?_map fun _ => reportedState_unit_id, find?_of_mem (f := BuildUnit.id) hids hu]
  rfl

/-- The metadata of a unit with the classes that are reported. -/
def classesOf (config : Config) (extent : Extent) (units : List BuildUnit) (u : BuildUnit) :
    Metadata :=
  if extent = .full ∧ u.parent.isSome then
    ((survey config (indexesOf units) u).found.mergeAll (published config units) u.id
      u.dependencies).1
  else (survey config (indexesOf units) u).found

theorem metadata_inheritedState :
    (inheritedState config units u).metadata = classesOf config .full units u := by
  have hunit := survey_unit config (indexesOf units) u
  unfold inheritedState inheriting classesOf
  simp only [scannedState, hunit, true_and]
  split <;> rfl

/-- Nothing but a flag comes between the classes of a unit and its report. -/
theorem metadata_reportedState (config : Config) (extent : Extent) (units : List BuildUnit)
    (u : BuildUnit) :
    ∃ ignorePath, (reportedState config extent units u).metadata =
      { classesOf config extent units u with ignoreApplicationPath := ignorePath } := by
  cases extent with
  | scanOnly => exact ⟨(survey config (indexesOf units) u).found.ignoreApplicationPath, rfl⟩
  | full =>
      rw [reportedState, finalState, dispatched, ← metadata_inheritedState]
      split
      · exact ⟨(inheritedState config units u).metadata.ignoreApplicationPath, rfl⟩
      · exact Registration.metadata_register _ _ _

theorem sameClasses_reportedState (config : Config) (extent : Extent) (units : List BuildUnit)
    (u : BuildUnit) :
    (reportedState config extent units u).metadata.SameClasses
      (classesOf config extent units u) := by
  obtain ⟨ignorePath, hmetadata⟩ := metadata_reportedState config extent units u
  rw [hmetadata]
  exact ⟨rfl, rfl, rfl, rfl⟩

theorem sameFlags_classesOf :
    (classesOf config extent units u).SameFlags (survey config (indexesOf units) u).found := by
  unfold classesOf
  split
  · exact Metadata.sameFlags_mergeAll
  · exact ⟨rfl, rfl, rfl, rfl⟩

/-- The policy and the flags are reported as the scan set them. -/
theorem sameFlags_reportedState :
    (reportedState config extent units u).metadata.SameFlags
      (survey config (indexesOf units) u).found := by
  have hclasses : (classesOf config extent units u).SameFlags
      (survey config (indexesOf units) u).found := sameFlags_classesOf
  obtain ⟨ignorePath, hmetadata⟩ := metadata_reportedState config extent units u
  rw [hmetadata]
  exact ⟨hclasses.policy, hclasses.hasBootClasses, hclasses.dispatcherCreated,
    hclasses.unwrappedExceptionsSet⟩

theorem sameFlags_finalState (config : Config) (units : List BuildUnit) (u : BuildUnit) :
    (finalState config units u).metadata.SameFlags
      (survey config (indexesOf units) u).found := by
  have hflags : (reportedState config .full units u).metadata.SameFlags
      (survey config (indexesOf units) u).found := sameFlags_reportedState
  exact hflags

/-! ### Every class in one place -/

theorem wellSorted_published {id : String} (h : published config units id = some m) :
    m.WellSorted := by
  obtain ⟨u, -, -, hm⟩ := exists_of_published h
  exact wellSorted_survey hm

/-- What every scan leaves behind and every merge keeps is so of the classes that are reported. -/
theorem classesOf_of_kept {P : Metadata → Prop}
    (hscan : ∀ {u : BuildUnit} {m : Metadata},
      (survey config (indexesOf units) u).metadata = .ok m → P m)
    (hmerge : ∀ {lookup : String → Option Metadata} {unit : String} {target : Metadata}
      {dependencies : List String}, P target → (∀ d c, lookup d = some c → P c) →
        P (target.mergeAll lookup unit dependencies).1)
    (h : (survey config (indexesOf units) u).metadata = .ok m) :
    P (classesOf config extent units u) := by
  have hfound : P (survey config (indexesOf units) u).found := by
    rw [Survey.found_of_ok h]
    exact hscan h
  unfold classesOf
  split
  · refine hmerge hfound fun d c hc => ?_
    obtain ⟨v, -, -, hm⟩ := exists_of_published hc
    exact hscan hm
  · exact hfound

theorem wellSorted_classesOf (h : (survey config (indexesOf units) u).metadata = .ok m) :
    (classesOf config extent units u).WellSorted :=
  classesOf_of_kept wellSorted_survey Metadata.WellSorted.mergeAll h

/-- **Every class is reported in one place.**  A classification keeps metadata well
sorted, so does merging the metadata of any dependencies, and so are the metadata of
every unit that a deployment reports on. -/
theorem reports_wellSorted (config : Config) (extent : Extent) (name : String)
    (units : List BuildUnit) {schedules : Schedules} (h : schedules.Complete units.length) :
    (∀ (input : ScanInput) (m : Metadata), m.WellSorted →
        (classify config input m).state.WellSorted) ∧
      (∀ (lookup : String → Option Metadata) (unit : String) (target : Metadata)
          (dependencies : List String), target.WellSorted →
        (∀ d c, lookup d = some c → c.WellSorted) →
          (target.mergeAll lookup unit dependencies).1.WellSorted) ∧
      ∀ r, (runAlong config extent schedules { name := name } units).result = .ok r →
        ∀ x ∈ r.units, x.metadata.WellSorted := by
  refine ⟨fun input m hm => hm.classify,
    fun lookup unit target dependencies htarget hlookup => htarget.mergeAll hlookup,
    fun r hr x hx => ?_⟩
  rw [runAlong_result h] at hr
  obtain ⟨-, hscan, rfl⟩ := eq_reports_of_resultOf hr
  obtain ⟨u, hu, rfl⟩ := List.mem_map.mp hx
  obtain ⟨m, hm⟩ := hscan u hu
  exact (wellSorted_classesOf hm).congr (sameClasses_reportedState config extent units u)

/-- A web application that inherits one class as a provider, as a resource and as an
application. -/
def contestedClass : Manifest where
  deployment := "shop"
  units :=
    [{ id := "a", classes := [plainClass "Items" [ providerAnnotation] none] },
      { id := "b", classes := [plainClass "Items" [ pathAnnotation] none] },
      { id := "c", classes := [plainClass "Items" [] (some applicationClass)] },
      { id := "web", parent := some "shop", dependencies := ["a", "b", "c"],
        descriptor := some {} }]

/-- The contested class is an application in the web application, and nothing else. -/
theorem reports_wellSorted_contestedClass :
    ∃ r x, (runFresh {} .full "shop" (contestedClass.build {})).result = .ok r ∧
      r.unit? "web" = some x ∧ x.metadata.WellSorted ∧ "Items" ∈ x.metadata.applications.keys ∧
        (Metadata.mergeAll (published {} (contestedClass.build {})) "web"
          (.ofPolicy .everything) ["a", "b", "c"]).1.WellSorted ∧
        ∀ u ∈ contestedClass.build {},
          (classify {} (scanInput u) (.ofPolicy .everything)).state.WellSorted := by
  obtain ⟨hclassify, hmerge, hreports⟩ := reports_wellSorted {} .full "shop"
    (contestedClass.build {}) (complete_inOrder _)
  obtain ⟨r, x, hr, hx, happ⟩ := exists_unit?_of_any
    (runFresh {} .full "shop" (contestedClass.build {})).result "web"
    (fun x => decide ("Items" ∈ x.metadata.applications.keys)) (by decide +kernel)
  have hempty := Metadata.wellSorted_ofPolicy .everything
  refine ⟨r, x, hr, hx, hreports r hr x (List.mem_of_find?_eq_some hx), by simpa using happ, ?_,
    fun u _ => hclassify _ _ hempty⟩
  exact hmerge _ _ _ _ hempty fun d c hc => wellSorted_published hc

/-! ### Components without a place among the resources -/

theorem accounted_classesOf (h : (survey config (indexesOf units) u).metadata = .ok m) :
    (classesOf config extent units u).Accounted :=
  classesOf_of_kept accounted_survey Metadata.Accounted.mergeAll h

/-- The units whose classes are reported for a unit: the unit itself and, in a full
deployment, the submitted units that it depends on if it has a parent. -/
def Contributes (extent : Extent) (units : List BuildUnit) (u v : BuildUnit) : Prop :=
  v = u ∨ (extent = .full ∧ u.parent.isSome) ∧ v ∈ units ∧ v.id ∈ u.dependencies

/-- The dependencies that the classes of a unit are merged with. -/
def mergedDependencies (extent : Extent) (u : BuildUnit) : List String :=
  if extent = .full ∧ u.parent.isSome then u.dependencies else []

theorem mem_mergedDependencies {d : String} :
    d ∈ mergedDependencies extent u ↔
      (extent = .full ∧ u.parent.isSome) ∧ d ∈ u.dependencies := by
  unfold mergedDependencies
  split
  · next h => exact (and_iff_right h).symm
  · next h => exact iff_of_false List.not_mem_nil fun hd => h hd.1

/-- A scan leaves every class in one place, so without dependencies there is nothing to merge. -/
theorem classesOf_eq_mergeAll (h : (survey config (indexesOf units) u).metadata = .ok m) :
    classesOf config extent units u = ((survey config (indexesOf units) u).found.mergeAll
      (published config units) u.id (mergedDependencies extent u)).1 := by
  unfold classesOf mergedDependencies
  split
  · rfl
  · rw [Survey.found_of_ok h]
    exact (wellSorted_survey h).exclusive_eq.symm

/-- What is merged is what the contributing units published. -/
theorem joined_published_iff (hids : (units.map (·.id)).Nodup) (hscan : Scannable config units)
    (hu : u ∈ units) :
    Metadata.Joined (published config units) u.id (survey config (indexesOf units) u).found
        (mergedDependencies extent u) m ↔
      ∃ v, Contributes extent units u v ∧ m = (survey config (indexesOf units) v).found := by
  constructor
  · rintro (rfl | ⟨d, hd, -, hpublished⟩)
    · exact ⟨u, .inl rfl, rfl⟩
    · obtain ⟨hmerged, hdependency⟩ := mem_mergedDependencies.mp hd
      obtain ⟨v, hv, rfl, hm⟩ := exists_of_published hpublished
      exact ⟨v, .inr ⟨hmerged, hv, hdependency⟩, (Survey.found_of_ok hm).symm⟩
  · rintro ⟨v, rfl | ⟨hmerged, hv, hd⟩, rfl⟩
    · exact .inl rfl
    · by_cases hvu : v.id = u.id
      · -- with distinct ids it is the unit itself
        rw [List.inj_on_of_nodup_map hids hv hu hvu]
        exact .inl rfl
      · obtain ⟨m, hm⟩ := hscan v hv
        rw [Survey.found_of_ok hm]
        exact .inr ⟨v.id, mem_mergedDependencies.mpr ⟨hmerged, hd⟩, hvu,
          published_of_mem hids hv hm⟩

theorem exists_joined_iff (hids : (units.map (·.id)).Nodup) (hscan : Scannable config units)
    (hu : u ∈ units) (P : Metadata → Prop) :
    (∃ c, Metadata.Joined (published config units) u.id (survey config (indexesOf units) u).found
        (mergedDependencies extent u) c ∧ P c) ↔
      ∃ v, Contributes extent units u v ∧ P (survey config (indexesOf units) v).found := by
  simp only [joined_published_iff hids hscan hu]
  constructor
  · rintro ⟨_, ⟨v, hv, rfl⟩, hP⟩
    exact ⟨v, hv, hP⟩
  · rintro ⟨v, hv, hP⟩
    exact ⟨_, ⟨v, hv, rfl⟩, hP⟩

/-- Names that a merge unites are reported for a unit if a scan of a contributing unit found
them. -/
theorem mem_classesOf {names : Metadata → NameSet} (hnames : Metadata.Unites names)
    (hexclusive : ∀ m, names m.exclusive = names m) (hids : (units.map (·.id)).Nodup)
    (hscan : Scannable config units) (hu : u ∈ units) :
    n ∈ names (classesOf config extent units u) ↔
      ∃ v, Contributes extent units u v ∧
        n ∈ names (survey config (indexesOf units) v).found := by
  obtain ⟨m, hm⟩ := hscan u hu
  rw [classesOf_eq_mergeAll hm, hnames.mem_mergeAll hexclusive]
  exact exists_joined_iff hids hscan hu fun c => n ∈ names c

/-- An application has the least path that a contributing unit declares for it. -/
theorem leastPath_classesOf (hids : (units.map (·.id)).Nodup) (hscan : Scannable config units)
    (hu : u ∈ units) :
    LeastPath (fun p => ∃ v, Contributes extent units u v ∧
        (survey config (indexesOf units) v).found.pathOf n = some p)
      ((classesOf config extent units u).pathOf n) := by
  obtain ⟨m, hm⟩ := hscan u hu
  rw [classesOf_eq_mergeAll hm]
  have hunion := (Metadata.isUnion_mergeAll (published config units) u.id
    (survey config (indexesOf units) u).found (mergedDependencies extent u)).path n
  exact (leastPath_congr (fun p => exists_joined_iff hids hscan hu fun c => c.pathOf n = some p)
    _).mp hunion

/-- The session beans among the own resource classes of the units that contribute to
a unit, each under the policy that is reported for it. -/
def Marked (config : Config) (extent : Extent) (units : List BuildUnit) (r : Report)
    (u : BuildUnit) (n : String) : Prop :=
  ∃ v y, Contributes extent units u v ∧ r.unit? v.id = some y ∧
    n ∈ sessionBeans config v.index y.metadata.policy

theorem mem_jndiResources_classesOf_iff_marked
    (h : resultOf config extent { name := name } units = .ok r) (hu : u ∈ units) :
    n ∈ (classesOf config extent units u).jndiResources ↔ Marked config extent units r u n := by
  obtain ⟨hids, hscan, -⟩ := eq_reports_of_resultOf h
  have hbeans : ∀ v ∈ units, ∃ y, r.unit? v.id = some y ∧
      (n ∈ (survey config (indexesOf units) v).found.jndiResources ↔
        n ∈ sessionBeans config v.index y.metadata.policy) := by
    intro v hv
    obtain ⟨m, hm⟩ := hscan v hv
    have hpolicy : (reportedState config extent units v).metadata.policy = m.policy := by
      rw [sameFlags_reportedState.policy, Survey.found_of_ok hm]
    refine ⟨_, unit?_of_resultOf h hv, ?_⟩
    rw [UnitReport.ofState, hpolicy, Survey.found_of_ok hm]
    exact mem_jndiResources_survey hm
  have hmem : ∀ v, Contributes extent units u v → v ∈ units := by
    rintro v (rfl | ⟨-, hv, -⟩)
    · exact hu
    · exact hv
  rw [mem_classesOf Metadata.unites_jndiResources (fun _ => rfl) hids hscan hu]
  constructor
  · rintro ⟨v, hv, hn⟩
    obtain ⟨y, hy, hiff⟩ := hbeans v (hmem v hv)
    exact ⟨v, y, hv, hy, hiff.mp hn⟩
  · rintro ⟨v, y, hv, hy, hn⟩
    obtain ⟨y', hy', hiff⟩ := hbeans v (hmem v hv)
    rw [hy] at hy'
    rw [Option.some.inj hy'] at hn
    exact ⟨v, hv, hiff.mpr hn⟩

/-- **Which components are no resources.**  In the report on a unit, the components
that are missing among the resources are the applications that are also session beans
among the resource classes of a contributing unit.  So the components are among the
resources exactly if there are no such classes. -/
theorem jndi_subset_resources_iff (config : Config) (extent : Extent) (name : String)
    {units : List BuildUnit} {schedules : Schedules} (hschedules : schedules.Complete units.length)
    {r : Report} (hr : (runAlong config extent schedules { name := name } units).result = .ok r)
    {u : BuildUnit} (hu : u ∈ units) :
    ∃ x, r.unit? u.id = some x ∧
      (∀ n, n ∈ x.metadata.jndiResources ∧ n ∉ x.metadata.resources ↔
        n ∈ x.metadata.applications.keys ∧ Marked config extent units r u n) ∧
      ((∀ n ∈ x.metadata.jndiResources, n ∈ x.metadata.resources) ↔
        ∀ n ∈ x.metadata.applications.keys, ¬ Marked config extent units r u n) := by
  rw [runAlong_result hschedules] at hr
  obtain ⟨m, hm⟩ := (eq_reports_of_resultOf hr).2.1 u hu
  obtain ⟨happlications, hresources, -, hcomponents⟩ :=
    sameClasses_reportedState config extent units u
  have hexact : ∀ n, n ∈ (classesOf config extent units u).jndiResources ∧
      n ∉ (classesOf config extent units u).resources ↔
        n ∈ (classesOf config extent units u).applications.keys ∧
          Marked config extent units r u n := fun n => by
    rw [(accounted_classesOf hm).mem_jndi_and_not_mem_resources (wellSorted_classesOf hm),
      mem_jndiResources_classesOf_iff_marked hr hu]
  refine ⟨_, unit?_of_resultOf hr hu, ?_⟩
  simp only [UnitReport.ofState, happlications, hresources, hcomponents]
  refine ⟨hexact, fun hsubset n happ hmarked => ?_, fun hnone n hjndi => ?_⟩
  · -- a marked application is a component, but not a resource
    obtain ⟨hjndi, hresource⟩ := (hexact n).mpr ⟨happ, hmarked⟩
    exact hresource (hsubset n hjndi)
  · -- a component that is no resource is a marked application
    by_contra hresource
    obtain ⟨happ, hmarked⟩ := (hexact n).mp ⟨hjndi, hresource⟩
    exact hnone n happ hmarked

/-- A session bean that is an application and a resource. -/
def applicationBean : Manifest where
  deployment := "shop"
  units :=
    [{ id := "lib"
       classes := [plainClass "Items" [ pathAnnotation, "javax.ejb.Stateless"] applicationClass] }]

/-- In the report on it, the session bean is an application, and a component that is
no resource. -/
theorem not_jndi_subset_resources :
    ∃ r x, (runFresh {} .scanOnly "shop" (applicationBean.build {})).result = .ok r ∧
      r.unit? "lib" = some x ∧ "Items" ∈ x.metadata.applications.keys ∧
        "Items" ∈ x.metadata.jndiResources ∧ "Items" ∉ x.metadata.resources := by
  obtain ⟨r, x, hr, hx, hitems⟩ := exists_unit?_of_any
    (runFresh {} .scanOnly "shop" (applicationBean.build {})).result "lib"
    (fun x => decide ("Items" ∈ x.metadata.applications.keys ∧
      "Items" ∈ x.metadata.jndiResources ∧ "Items" ∉ x.metadata.resources)) (by decide +kernel)
  exact ⟨r, x, hr, hx, by simpa using hitems⟩

/-- The session bean is marked, and so the components are not among the resources. -/
theorem jndi_subset_resources_iff_applicationBean :
    ∃ r u x, (runFresh {} .scanOnly "shop" (applicationBean.build {})).result = .ok r ∧
      u ∈ applicationBean.build {} ∧ r.unit? u.id = some x ∧
        "Items" ∈ x.metadata.applications.keys ∧
        Marked {} .scanOnly (applicationBean.build {}) r u "Items" ∧
        ¬ ∀ n ∈ x.metadata.jndiResources, n ∈ x.metadata.resources := by
  obtain ⟨r, x, hr, hx, hitems⟩ := exists_unit?_of_any
    (runFresh {} .scanOnly "shop" (applicationBean.build {})).result "lib"
    (fun x => decide ("Items" ∈ x.metadata.jndiResources ∧ "Items" ∉ x.metadata.resources))
    (by decide +kernel)
  obtain ⟨hjndi, hresource⟩ : "Items" ∈ x.metadata.jndiResources ∧ "Items" ∉ x.metadata.resources :=
    by simpa using hitems
  have hne : applicationBean.build {} ≠ [] := List.cons_ne_nil _ _
  obtain ⟨y, hy, hexact, hsubset⟩ := jndi_subset_resources_iff {} .scanOnly "shop"
    (complete_inOrder _) hr (List.head_mem hne)
  obtain rfl : x = y := Option.some.inj (hx.symm.trans hy)
  obtain ⟨happ, hmarked⟩ := (hexact "Items").mp ⟨hjndi, hresource⟩
  exact ⟨r, _, x, hr, List.head_mem hne, hy, happ, hmarked, fun h => hresource (h _ hjndi)⟩

end RestDeployment.Deployment
