import RestDeployment.Manifest
import RestDeployment.Proofs.Adoption
import RestDeployment.Proofs.ClassTable
import RestDeployment.Proofs.Deployment.Classes
import RestDeployment.Proofs.Registration.Failures
import RestDeployment.Proofs.ScanPolicy

/-!
# When a deployment ends well

A deployment that is described by a manifest can fail for five reasons only: two units
share an id, or a web application declares a class that conflicts with the dispatcher, a
servlet class that cannot be loaded, a scan flag without a proper value, or ends up with an
application that cannot be loaded.  `WebDeployable` lists the last four.

## Strategy

* By `resultOf_full_eq_ok_iff` it is enough to know when the scan of a unit goes well and
  when its dispatchers can be set up.
* A scan is the preparation and the classification.  A classification never fails, as a
  unit can load every class of its own index (`isOk_classified`).  The preparation fails
  where the inspection or the scan policy does (`prepare_result_eq_ok_iff`).
* Dispatchers are registered for the metadata that a unit has inherited.  Its flags are
  those that the preparation has set (`skips_inheritedState_iff`).
-/

namespace RestDeployment

namespace UnitManifest

variable {config : Config} {u : UnitManifest} {n : String}

/-- A unit can load its own classes, those that are visible to it, the dispatcher class
and the boot classes. -/
def Loads (config : Config) (u : UnitManifest) (n : String) : Prop :=
  n ∈ u.classes.map (·.name) ∨ n ∈ u.visible ∨ n = config.dispatcher.servletClass ∨
    n ∈ config.bootClasses

theorem load_build_eq_ok_iff {handle : ClassHandle} :
    (u.build config).loader.load n = .ok handle ↔
      handle = ⟨n, u.table.class? n⟩ ∧ u.Loads config n := by
  simp only [build, ClassTable.load_eq_ok_iff, table, ClassTable.isSome_class?_ofList, Loads,
    List.mem_append, List.mem_cons]

theorem exists_load_build_iff :
    (∃ handle, (u.build config).loader.load n = .ok handle) ↔ u.Loads config n := by
  simp only [load_build_eq_ok_iff, exists_eq_left]

theorem keepsNames_build (config : Config) (u : UnitManifest) :
    (u.build config).loader.KeepsNames :=
  ClassTable.keepsNames_loader _ _

end UnitManifest

namespace Deployment

open Classification (foundApplications)

variable {config : Config} {indexes : Indexes} {units : List BuildUnit} {m : Manifest}
  {name n : String} {schedules : Schedules}

/-! ### Preparations -/

theorem prepare_result_of_library {u : BuildUnit} (h : u.descriptor = none) :
    (prepare config indexes u).result = .ok (Metadata.ofPolicy .everything) := by
  simp only [prepare, h]

/-- The preparation of a web application goes well if the inspection does and its context
parameters settle a policy. -/
theorem prepare_result_eq_ok_iff {u : BuildUnit} {web : WebDescriptor}
    (hweb : u.descriptor = some web) {start : Metadata} :
    (prepare config indexes u).result = .ok start ↔
      ∃ i p, (Adoption.adopt config (hierarchyOf indexes u) u.loader web).result = .ok i ∧
        ScanPolicy.ofDescriptor web i.hasBootClasses = .ok p ∧ start = inspectedMetadata p i := by
  -- the inspection leaves alone what the policy depends on
  obtain ⟨servlets, hstate, -⟩ := Adoption.adopt_state config (hierarchyOf indexes u) u.loader web
  have hpolicy : ∀ b, ScanPolicy.ofDescriptor
      (Adoption.adopt config (hierarchyOf indexes u) u.loader web).state b =
        ScanPolicy.ofDescriptor web b := fun b => by rw [hstate]; rfl
  simp only [prepare, hweb]
  cases hadopt : (Adoption.adopt config (hierarchyOf indexes u) u.loader web).result with
  | error fault => simp
  | ok i =>
      simp only [hpolicy]
      cases hp : ScanPolicy.ofDescriptor web i.hasBootClasses with
      | error fault => simp [Except.map, hp]
      | ok p => simp [Except.map, hp, eq_comm]

/-! ### Scans of the units of a manifest -/

/-- Every subtype that the index of a unit reports can be loaded by the unit. -/
theorem load_of_mem_subtypes (config : Config) (u : UnitManifest) {ancestor : String}
    {c : ClassEntry} (hc : c ∈ (u.build config).index.subtypes ancestor) :
    ∃ handle, (u.build config).loader.load c.name = .ok handle :=
  ClassTable.load_of_mem_subtypes (ClassTable.keyed_ofList u.classes) hc

theorem isOk_classified (config : Config) (indexes : Indexes) (u : UnitManifest)
    (start : Metadata) :
    (classified config indexes (u.build config) start).result = .ok () := by
  refine Classification.isOk_classify config start fun c hc => ?_
  simp only [scanInput, prepare_state] at hc ⊢
  exact load_of_mem_subtypes config u hc

/-- The scan of a unit of a manifest goes well if its preparation does. -/
theorem isOk_survey_iff (config : Config) (indexes : Indexes) (u : UnitManifest) :
    (∃ found, (survey config indexes (u.build config)).metadata = .ok found) ↔
      ∃ start, (prepare config indexes (u.build config)).result = .ok start := by
  simp only [survey_metadata_eq_ok_iff]
  constructor
  · rintro ⟨found, start, hstart, -, -⟩
    exact ⟨start, hstart⟩
  · rintro ⟨start, hstart⟩
    exact ⟨_, start, hstart, isOk_classified config indexes u start, rfl⟩

/-- Whether a class is an application for a unit: over its own index, followed by the
indexes of the submitted units that it depends on. -/
def SeesApplication (config : Config) (m : Manifest) (u : UnitManifest) (n : String) : Prop :=
  (hierarchyOf (indexesOf (m.build config)) (u.build config)).descends ⟨n, none⟩
    applicationClass = true

/-- A class that a unit has loaded is an application as its name says. -/
theorem descends_iff_seesApplication {u : UnitManifest} {handle : ClassHandle}
    (h : (u.build config).loader.load n = .ok handle) :
    (hierarchyOf (indexesOf (m.build config)) (u.build config)).descends handle
      applicationClass = true ↔ SeesApplication config m u n := by
  obtain ⟨rfl, -⟩ := UnitManifest.load_build_eq_ok_iff.mp h
  -- an entry of the own index is also the first that the hierarchy finds
  have hfirst : (hierarchyOf (indexesOf (m.build config)) (u.build config)).class? n =
      (u.table.class? n).or (Hierarchy.class?
        ⟨((u.build config).dependencies.filterMap (indexesOf (m.build config)))⟩ n) := by
    simp only [hierarchyOf, Hierarchy.class?, List.findSome?_cons]
    have hown : (u.build config).index.classes.get? n = u.table.class? n := rfl
    rw [hown]
    cases u.table.class? n <;> rfl
  simp only [SeesApplication, Hierarchy.descends, hfirst, Option.none_or]
  rw [← Option.or_assoc, Option.or_self]

theorem isOk_candidate?_build_iff {u : UnitManifest} {servlets : List Servlet} :
    (∃ found, Adoption.candidate? (hierarchyOf (indexesOf (m.build config)) (u.build config))
      (u.build config).loader servlets = .ok found) ↔
      Adoption.ResolvedThrough (SeesApplication config m u) (u.Loads config) servlets := by
  rw [Adoption.isOk_candidate?_iff fun n handle h => descends_iff_seesApplication h]
  simp only [UnitManifest.exists_load_build_iff]

/-- What the scan of a unit comes to in a deployment of the manifest. -/
abbrev surveyOf (config : Config) (m : Manifest) (u : UnitManifest) : Survey :=
  survey config (indexesOf (m.build config)) (u.build config)

/-- When the scan of a web application goes well. -/
theorem isOk_survey_web_iff {u : UnitManifest} {web : WebDescriptor}
    (hweb : u.descriptor = some web) :
    (∃ found, (surveyOf config m u).metadata = .ok found) ↔
      (∀ n ∈ web.declaredClasses, config.dispatcher.conflicts n = false) ∧
        Adoption.ResolvedThrough (SeesApplication config m u) (u.Loads config) web.servlets ∧
        ∀ p ∈ web.contextParams, ScanFlag.Assignable p.name p.value := by
  have hbuilt : (u.build config).descriptor = some web := hweb
  rw [isOk_survey_iff, ← WebDescriptor.conflict?_eq_none_iff, ← isOk_candidate?_build_iff]
  constructor
  · rintro ⟨start, hstart⟩
    obtain ⟨i, p, hi, hp, -⟩ := (prepare_result_eq_ok_iff hbuilt).mp hstart
    obtain ⟨hconflict, found, hfound, -⟩ := Adoption.adopt_result_eq_ok_iff.mp hi
    exact ⟨hconflict, ⟨found, hfound⟩, (ScanPolicy.isOk_ofDescriptor_iff web _).mp ⟨p, hp⟩⟩
  · rintro ⟨hconflict, ⟨found, hfound⟩, hflags⟩
    obtain ⟨p, hp⟩ := (ScanPolicy.isOk_ofDescriptor_iff web (web.declaresBootClass config)).mpr
      hflags
    exact ⟨_, (prepare_result_eq_ok_iff hbuilt).mpr ⟨_, p,
      Adoption.adopt_result_eq_ok_iff.mpr ⟨hconflict, found, hfound, rfl⟩, hp, rfl⟩⟩

theorem exists_candidate_of_survey {u : UnitManifest} {web : WebDescriptor} {found : Metadata}
    (hweb : u.descriptor = some web) (hfound : (surveyOf config m u).metadata = .ok found) :
    web.conflict? config.dispatcher = none ∧
      ∃ candidate, Adoption.candidate? (hierarchyOf (indexesOf (m.build config)) (u.build config))
        (u.build config).loader web.servlets = .ok candidate := by
  have hbuilt : (u.build config).descriptor = some web := hweb
  obtain ⟨start, hstart, -, -⟩ := survey_metadata_eq_ok_iff.mp hfound
  obtain ⟨i, p, hi, -, -⟩ := (prepare_result_eq_ok_iff hbuilt).mp hstart
  obtain ⟨hconflict, candidate, hcandidate, -⟩ := Adoption.adopt_result_eq_ok_iff.mp hi
  exact ⟨hconflict, candidate, hcandidate⟩

/-- The applications that the scan of a unit finds. -/
theorem get?_applications_survey {u : UnitManifest} {found : Metadata} {a : Application}
    (hfound : (survey config indexes (u.build config)).metadata = .ok found) :
    found.applications.get? n = some a ↔
      found.policy.scans = true ∧ found.dispatcherCreated = false ∧
        ∃ c ∈ (u.build config).index.subtypes applicationClass, c.name = n ∧
          Classification.Kept (inspectedDescriptor config indexes (u.build config)) c a := by
  obtain ⟨start, hstart, hok, rfl⟩ := survey_metadata_eq_ok_iff.mp hfound
  obtain ⟨-, -, hempty⟩ := prepare_metadata hstart
  have hflags := Metadata.sameFlags_classify config
    (scanInput (prepare config indexes (u.build config)).state) start
  have hinput : scanInput (prepare config indexes (u.build config)).state =
      ⟨(u.build config).index, (u.build config).loader,
        inspectedDescriptor config indexes (u.build config)⟩ := by
    rw [prepare_state]
    rfl
  have hnames : ∀ c ∈ (u.build config).index.subtypes applicationClass,
      ∀ c' ∈ (u.build config).index.subtypes applicationClass, c.name = c'.name → c = c' := by
    intro c hc c' hc' hname
    have hclass := ClassTable.class?_of_mem_subtypes (ClassTable.keyed_ofList u.classes) hc
    have hclass' := ClassTable.class?_of_mem_subtypes (ClassTable.keyed_ofList u.classes) hc'
    rw [← hname, hclass, Option.some.injEq] at hclass'
    exact hclass'
  rw [classified] at hok ⊢
  rw [hflags.policy, hflags.dispatcherCreated]
  rw [hinput] at hok ⊢
  exact Classification.get?_applications_classify hempty hnames hok

/-! ### Registrations of the units of a manifest -/

theorem hasBootClasses_inspectedMetadata {web : WebDescriptor} {i : Inspection} {p : ScanPolicy}
    (hp : ScanPolicy.ofDescriptor web i.hasBootClasses = .ok p) :
    (inspectedMetadata p i).hasBootClasses = i.hasBootClasses ∧
      (inspectedMetadata p i).policy.hasBootClasses = i.hasBootClasses := by
  have hboot : p.hasBootClasses = i.hasBootClasses := ScanPolicy.hasBootClasses_of_ofDescriptor hp
  exact ⟨hboot, hboot⟩

/-- A servlet of the descriptor declares an application. -/
def DeclaresApplication (config : Config) (m : Manifest) (u : UnitManifest) (web : WebDescriptor) :
    Prop :=
  ∃ s ∈ web.servlets, ∃ n, s.servletClass = some n ∧ SeesApplication config m u n

/-- After a scan that went well, the flags say whether there is anything to register. -/
theorem skips_survey_iff {u : UnitManifest} {web : WebDescriptor} {found : Metadata}
    (hweb : u.descriptor = some web) (h : (surveyOf config m u).metadata = .ok found) :
    Registration.Skips found ↔
      web.declaresBootClass config = true ∨ DeclaresApplication config m u web := by
  have hbuilt : (u.build config).descriptor = some web := hweb
  obtain ⟨start, hstart, -, hfound⟩ := survey_metadata_eq_ok_iff.mp h
  obtain ⟨i, p, hi, hp, rfl⟩ := (prepare_result_eq_ok_iff hbuilt).mp hstart
  obtain ⟨-, candidate, hcandidate, rfl⟩ := Adoption.adopt_result_eq_ok_iff.mp hi
  obtain ⟨hboot, hpolicy⟩ := hasBootClasses_inspectedMetadata hp
  have hcreated : candidate.isSome = true ↔ DeclaresApplication config m u web :=
    Adoption.isSome_candidate_iff (fun n handle hload => descends_iff_seesApplication hload)
      hcandidate
  have hflags : found.SameFlags _ := hfound ▸ Metadata.sameFlags_classify config _ _
  rw [Registration.Skips.congr hflags, Registration.Skips, hboot, hpolicy, Bool.or_self,
    ← hcreated]
  simp [inspectedMetadata, Inspection.dispatcherCreated, Adoption.inspectionOf]

/-- The metadata with the classes that a full deployment reports for a unit. -/
abbrev classesOfUnit (config : Config) (m : Manifest) (u : UnitManifest) : Metadata :=
  classesOf config .full (m.build config) (u.build config)

/-- What the registration for a web application starts from. -/
def registering (config : Config) (m : Manifest) (u : UnitManifest) (web : WebDescriptor) :
    Registration.WebState where
  metadata := classesOfUnit config m u
  descriptor := (Adoption.adopt config (hierarchyOf (indexesOf (m.build config)) (u.build config))
    (u.build config).loader web).state

theorem unit_inheritedState_of_web {u : UnitManifest} {web : WebDescriptor}
    (hweb : u.descriptor = some web) :
    (inheritedState config (m.build config) (u.build config)).unit =
      { u.build config with descriptor := some (registering config m u web).descriptor } := by
  have hbuilt : (u.build config).descriptor = some web := hweb
  rw [inheritedState_unit, survey_unit, inspectedDescriptor, hbuilt, Option.map_some, registering]

theorem dispatchable_iff_register {u : UnitManifest} {web : WebDescriptor}
    (hweb : u.descriptor = some web) :
    Dispatchable config (inheritedState config (m.build config) (u.build config)) ↔
      ∃ registration, (Registration.register config (u.build config).loader
        (registering config m u web)).result = .ok registration := by
  simp only [Dispatchable, registrationOf, unit_inheritedState_of_web hweb,
    metadata_inheritedState, Option.some.injEq, forall_eq']
  rfl

theorem skips_registering_iff {u : UnitManifest} {web : WebDescriptor} {found : Metadata}
    (hweb : u.descriptor = some web) (h : (surveyOf config m u).metadata = .ok found) :
    Registration.Skips (registering config m u web).metadata ↔
      web.declaresBootClass config = true ∨ DeclaresApplication config m u web := by
  rw [registering, Registration.Skips.congr sameFlags_classesOf, Survey.found_of_ok h,
    skips_survey_iff hweb h]

/-- When the dispatchers of a web application can be set up, after its scan went well. -/
theorem dispatchable_web_iff {u : UnitManifest} {web : WebDescriptor} {found : Metadata}
    (hweb : u.descriptor = some web) (h : (surveyOf config m u).metadata = .ok found) :
    Dispatchable config (inheritedState config (m.build config) (u.build config)) ↔
      (web.declaresBootClass config = false → ¬ DeclaresApplication config m u web →
        ∀ n ∈ (classesOfUnit config m u).applications.keys,
          ((classesOfUnit config m u).pathOf n).isSome = true ∨ web.isMapped n = true →
            u.Loads config n) := by
  -- adopting a servlet leaves the mappings alone
  obtain ⟨servlets, hstate, -⟩ := Adoption.adopt_state config
    (hierarchyOf (indexesOf (m.build config)) (u.build config)) (u.build config).loader web
  have hnames : ∀ n, n ∈ Registration.registeredNames (registering config m u web).metadata
      (registering config m u web).descriptor ↔ n ∈ (classesOfUnit config m u).applications.keys ∧
        (((classesOfUnit config m u).pathOf n).isSome = true ∨ web.isMapped n = true) := fun n => by
    rw [registering, hstate, Registration.mem_registeredNames (wellSorted_classesOf h).keyed]
    rfl
  simp only [dispatchable_iff_register hweb, Registration.isOk_register_iff,
    skips_registering_iff hweb h, hnames, not_or, Bool.not_eq_true, and_imp,
    UnitManifest.exists_load_build_iff]

/-! ### Whole deployments -/

/-- What the manifest has to say about a web application. -/
structure WebDeployable (config : Config) (m : Manifest) (u : UnitManifest) (web : WebDescriptor) :
    Prop where
  allowed : ∀ n ∈ web.declaredClasses, simpleName n ∈ config.dispatcher.recognizedNames →
    n ∈ config.dispatcher.allowedClasses
  resolved : Adoption.ResolvedThrough (SeesApplication config m u) (u.Loads config) web.servlets
  assignable : ∀ p ∈ web.contextParams, ScanFlag.Assignable p.name p.value
  loadable : web.declaresBootClass config = false → ¬ DeclaresApplication config m u web →
    ∀ n ∈ (classesOfUnit config m u).applications.keys,
      ((classesOfUnit config m u).pathOf n).isSome = true ∨ web.isMapped n = true →
        u.Loads config n

/-- Neither the scan nor the registration of a unit goes wrong. -/
def Deployable (config : Config) (m : Manifest) (u : UnitManifest) : Prop :=
  (∃ found, (survey config (indexesOf (m.build config)) (u.build config)).metadata = .ok found) ∧
    Dispatchable config (inheritedState config (m.build config) (u.build config))

theorem deployable_of_library (config : Config) (m : Manifest) {u : UnitManifest}
    (hlibrary : u.descriptor = none) : Deployable config m u := by
  have hbuilt : (u.build config).descriptor = none := hlibrary
  refine ⟨(isOk_survey_iff config _ u).mpr ⟨_, prepare_result_of_library hbuilt⟩, ?_⟩
  intro web hweb
  rw [inheritedState_unit, survey_unit, inspectedDescriptor, hbuilt] at hweb
  cases hweb

theorem deployable_web_iff {u : UnitManifest} {web : WebDescriptor}
    (hweb : u.descriptor = some web) : Deployable config m u ↔ WebDeployable config m u web := by
  have hallowed : (∀ n ∈ web.declaredClasses, config.dispatcher.conflicts n = false) ↔
      ∀ n ∈ web.declaredClasses, simpleName n ∈ config.dispatcher.recognizedNames →
        n ∈ config.dispatcher.allowedClasses := by
    simp only [← Bool.not_eq_true, Dispatcher.conflicts_eq_true_iff, not_and, not_not]
  constructor
  · rintro ⟨⟨found, hfound⟩, hdispatch⟩
    obtain ⟨hconflicts, hresolved, hassignable⟩ := (isOk_survey_web_iff hweb).mp ⟨found, hfound⟩
    exact ⟨hallowed.mp hconflicts, hresolved, hassignable,
      (dispatchable_web_iff hweb hfound).mp hdispatch⟩
  · rintro ⟨hconflicts, hresolved, hassignable, hloadable⟩
    obtain ⟨found, hfound⟩ :=
      (isOk_survey_web_iff hweb).mpr ⟨hallowed.mpr hconflicts, hresolved, hassignable⟩
    exact ⟨⟨found, hfound⟩, (dispatchable_web_iff hweb hfound).mpr hloadable⟩

theorem deployable_iff {u : UnitManifest} :
    Deployable config m u ↔ ∀ web, u.descriptor = some web → WebDeployable config m u web := by
  cases hweb : u.descriptor with
  | none => simp [deployable_of_library config m hweb]
  | some web => simp [deployable_web_iff hweb]

theorem ids_build (config : Config) (m : Manifest) :
    (m.build config).map (·.id) = m.units.map (·.id) := by
  rw [Manifest.build, List.map_map]
  rfl

theorem isOk_resultOf_build_iff :
    (∃ r, resultOf config .full { name := name } (m.build config) = .ok r) ↔
      (m.units.map (·.id)).Nodup ∧ ∀ u ∈ m.units, Deployable config m u := by
  have hunits : (∀ u ∈ m.units, Deployable config m u) ↔ Scannable config (m.build config) ∧
      ∀ b ∈ m.build config, Dispatchable config (inheritedState config (m.build config) b) := by
    simp only [Deployable, forall_and, Scannable, Manifest.build, List.forall_mem_map]
  simp only [resultOf_full_eq_ok_iff, ids_build, hunits, exists_and_left, exists_eq, and_true]

/-! ### Failures -/

/-- The faults of a scan lie in what the manifest says, not in the state of the deployment. -/
theorem ne_illegalState_of_survey {u : UnitManifest} {fault : Fault}
    (h : (survey config indexes (u.build config)).metadata = .error fault) (reason : Misuse) :
    fault ≠ .illegalState reason := by
  rintro rfl
  rcases survey_metadata_eq_error_iff.mp h with hprepare | ⟨start, -, hclassified⟩
  · cases hweb : (u.build config).descriptor with
    | none =>
        rw [prepare_result_of_library hweb] at hprepare
        cases hprepare
    | some web =>
        simp only [prepare, hweb] at hprepare
        split at hprepare
        · next hadopt =>
            cases hprepare
            rcases Adoption.exists_of_adopt_result_eq_error hadopt with ⟨_, _, h⟩ | ⟨_, h⟩
            · cases h
            · cases h
        · next i hadopt =>
            cases hpolicy : ScanPolicy.ofDescriptor
                (Adoption.adopt config (hierarchyOf indexes (u.build config))
                  (u.build config).loader web).state i.hasBootClasses with
            | error fault =>
                obtain ⟨_, _, rfl⟩ := ScanPolicy.exists_of_ofDescriptor_eq_error hpolicy
                simp [hpolicy, Except.map] at hprepare
            | ok p => simp [hpolicy, Except.map] at hprepare
  · rw [isOk_classified] at hclassified
    cases hclassified

/-- With distinct ids, a deployment is stopped by a web application that is not deployable. -/
theorem exists_not_deployable {failure : Failure} (hids : (m.units.map (·.id)).Nodup)
    (h : resultOf config .full { name := name } (m.build config) = .error failure) :
    (∃ u ∈ m.units, failure.unit = some u.id ∧ ¬ Deployable config m u) ∧
      ∀ reason, failure.fault ≠ .illegalState reason := by
  rw [← ids_build config m] at hids
  obtain ⟨b, hb, hunit, hfault⟩ := exists_unit_of_resultOf_full_eq_error hids h
  obtain ⟨u, hu, rfl⟩ := List.mem_map.mp hb
  rcases hfault with hsurvey | ⟨-, web, hweb, hregistration⟩
  · refine ⟨⟨u, hu, hunit, fun hdeployable => ?_⟩, ne_illegalState_of_survey hsurvey⟩
    obtain ⟨⟨found, hfound⟩, -⟩ := hdeployable
    rw [hsurvey] at hfound
    cases hfound
  · refine ⟨⟨u, hu, hunit, fun hdeployable => ?_⟩, fun reason hreason => ?_⟩
    · obtain ⟨registration, hok⟩ := hdeployable.2 web hweb
      rw [hregistration] at hok
      cases hok
    · obtain ⟨e, he⟩ := Registration.exists_of_register_result_eq_error hregistration
      rw [hreason] at he
      cases he

/-! ### The main statement -/

/-- **When a full deployment ends well.**  It does exactly if the ids are distinct and every
web application is deployable; the classes that this asks for are those that are reported
in the end.  With distinct ids only a web application can stop it, never a library, nor an
illegal state, nor an application that was found in an index. -/
theorem full_ends_well_iff (config : Config) (name : String) {m : Manifest}
    {schedules : Schedules} (h : schedules.Complete (m.build config).length) :
    ((∃ r, (runAlong config .full schedules { name := name } (m.build config)).result = .ok r) ↔
        (m.units.map (·.id)).Nodup ∧ ∀ u ∈ m.units, ∀ web, u.descriptor = some web →
          WebDeployable config m u web) ∧
      (∀ r, (runAlong config .full schedules { name := name } (m.build config)).result = .ok r →
        ∀ u ∈ m.units, ∃ x, r.unit? u.id = some x ∧
          x.metadata.SameClasses (classesOfUnit config m u)) ∧
      (∀ failure, (m.units.map (·.id)).Nodup →
        (runAlong config .full schedules { name := name } (m.build config)).result =
            .error failure →
          (∃ u ∈ m.units, ∃ web, u.descriptor = some web ∧ failure.unit = some u.id ∧
            ¬ WebDeployable config m u web) ∧
          ∀ reason, failure.fault ≠ .illegalState reason) ∧
      ∀ (u : UnitManifest) (descriptor : Option WebDescriptor) (dispatcherCreated : Bool),
        ∃ apps, (foundApplications ⟨(u.build config).index, (u.build config).loader, descriptor⟩
          dispatcherCreated).value = .ok apps := by
  rw [runAlong_result h]
  refine ⟨?_, fun r hr u hu => ?_, fun failure hids hfailure => ?_, fun u descriptor created => ?_⟩
  · simp only [isOk_resultOf_build_iff, deployable_iff]
  · exact ⟨_, unit?_of_resultOf hr (List.mem_map_of_mem hu),
      sameClasses_reportedState config .full (m.build config) (u.build config)⟩
  · obtain ⟨⟨u, hu, hunit, hnot⟩, hfault⟩ := exists_not_deployable hids hfailure
    cases hweb : u.descriptor with
    | none => exact absurd (deployable_of_library config m hweb) hnot
    | some web =>
        exact ⟨⟨u, hu, web, hweb, hunit, fun hdeployable =>
          hnot ((deployable_web_iff hweb).mpr hdeployable)⟩, hfault⟩
  · exact Classification.isOk_foundApplications created fun c hc => load_of_mem_subtypes config u hc

/-- A library with an application, and a web application that inherits it and can load the
given names. -/
def sharedApplication (visible : List String) : Manifest where
  deployment := "shop"
  units :=
    [{ id := "lib"
       classes := [{ plainClass "Shop" [] (some applicationClass) with
         annotations := [⟨ applicationPathAnnotation, some "/shop"⟩] }] },
      { id := "web", parent := some "shop", dependencies := ["lib"], visible := visible
        descriptor := some {} }]

/-- The web application is deployable if it can load the application, and only then. -/
theorem full_ends_well_iff_sharedApplication :
    (∃ r x, (runFresh {} .full "shop" ((sharedApplication ["Shop"]).build {})).result = .ok r ∧
        r.unit? "web" = some x ∧ "Shop" ∈ x.metadata.applications.keys ∧
        ∃ u ∈ (sharedApplication ["Shop"]).units, ∃ web, u.descriptor = some web ∧
          WebDeployable {} (sharedApplication ["Shop"]) u web) ∧
      (runFresh {} .full "shop" ((sharedApplication []).build {})).result =
          .error ⟨.classNotFound "Shop", some "web"⟩ ∧
        ∃ u ∈ (sharedApplication []).units, ∃ web, u.descriptor = some web ∧
          u.id = "web" ∧ ¬ WebDeployable {} (sharedApplication []) u web := by
  obtain ⟨hvisible, -⟩ := full_ends_well_iff {} "shop"
    (complete_inOrder ((sharedApplication ["Shop"]).build {}))
  obtain ⟨-, -, hmissing, -⟩ := full_ends_well_iff {} "shop"
    (complete_inOrder ((sharedApplication []).build {}))
  constructor
  · obtain ⟨r, x, hr, hx, happ⟩ := exists_unit?_of_any
      (runFresh {} .full "shop" ((sharedApplication ["Shop"]).build {})).result "web"
      (fun x => decide ("Shop" ∈ x.metadata.applications.keys)) (by decide +kernel)
    have hdeployable := (hvisible.mp ⟨r, hr⟩).2
    exact ⟨r, x, hr, hx, by simpa using happ, (sharedApplication ["Shop"]).units[1],
      List.getElem_mem _, {}, rfl, hdeployable _ (List.getElem_mem _) {} rfl⟩
  · have hfails : (runFresh {} .full "shop" ((sharedApplication []).build {})).result =
        .error ⟨.classNotFound "Shop", some "web"⟩ := by decide +kernel
    obtain ⟨⟨u, hu, web, hweb, hunit, hnot⟩, -⟩ := hmissing _ (by decide) hfails
    exact ⟨hfails, u, hu, web, hweb, (Option.some.inj hunit).symm, hnot⟩

end Deployment

end RestDeployment
