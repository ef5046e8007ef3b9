import RestDeployment.Proofs.Deployment.Success

/-!
# What a deployment makes of a descriptor

A descriptor passes through the inspection, which may adopt one of its servlets, and the
registration, which may append servlets and mappings; `leftDescriptor` is what comes out.
`unchanged_iff` says when it is what went in: no servlet is left to adopt (`Exhausted`) and,
unless a boot class is declared, the registration finds nothing to add.

Every servlet that a deployment touches runs on the dispatcher class from then on.  Where that
class is a boot class, as it is by default, a descriptor that is left without boot class shows
that the deployment has adopted no servlet and has added none (`OnlyMaps`).
-/

namespace RestDeployment.Deployment

variable {config : Config} {m : Manifest} {u : UnitManifest} {web left : WebDescriptor}
  {found : Metadata} {n : String}

/-! ### Servlets that are left to adopt -/

/-- The classes of all declared servlets can be loaded, and none of them is an application. -/
def Exhausted (config : Config) (m : Manifest) (u : UnitManifest) (web : WebDescriptor) : Prop :=
  ∀ s ∈ web.servlets, ∀ n, s.servletClass = some n →
    u.Loads config n ∧ ¬ SeesApplication config m u n

theorem candidate?_eq_none_iff_exhausted :
    Adoption.candidate? (hierarchyOf (indexesOf (m.build config)) (u.build config))
        (u.build config).loader web.servlets = .ok none ↔ Exhausted config m u web := by
  have hpassed : ∀ n, (∃ handle, (u.build config).loader.load n = .ok handle ∧
      (hierarchyOf (indexesOf (m.build config)) (u.build config)).descends handle
        applicationClass = false) ↔ u.Loads config n ∧ ¬ SeesApplication config m u n := by
    intro n
    rw [← UnitManifest.exists_load_build_iff]
    constructor
    · rintro ⟨handle, hload, hno⟩
      rw [← descends_iff_seesApplication hload, hno]
      exact ⟨⟨handle, hload⟩, Bool.false_ne_true⟩
    · rintro ⟨⟨handle, hload⟩, hno⟩
      rw [← descends_iff_seesApplication hload, Bool.not_eq_true] at hno
      exact ⟨handle, hload, hno⟩
  rw [Adoption.candidate?_eq_none_iff]
  simp only [Adoption.PassedOver, hpassed, Exhausted]

theorem not_declaresApplication_of_exhausted (h : Exhausted config m u web) :
    ¬ DeclaresApplication config m u web := by
  rintro ⟨s, hs, n, hclass, happlication⟩
  exact (h s hs n hclass).2 happlication

theorem resolvedThrough_of_exhausted (h : Exhausted config m u web) :
    Adoption.ResolvedThrough (SeesApplication config m u) (u.Loads config) web.servlets := by
  intro before s after n hsplit hclass _
  refine (h s ?_ n hclass).1
  rw [hsplit]
  exact List.mem_append_right _ List.mem_cons_self

theorem exhausted_addTo_iff {p : Registration.Plan} (hservlets : p.servlets = []) :
    Exhausted config m u (p.addTo web) ↔ Exhausted config m u web := by
  simp only [Exhausted, Registration.Plan.addTo, hservlets, List.append_nil]

/-- A web application that adopts no servlet is scanned with its descriptor as it is. -/
theorem scan_of_exhausted (hweb : u.descriptor = some web)
    (hfound : (surveyOf config m u).metadata = .ok found)
    (hexhausted : Exhausted config m u web) :
    ScanPolicy.ofDescriptor web (web.declaresBootClass config) = .ok found.policy ∧
      found.dispatcherCreated = false ∧
      inspectedDescriptor config (indexesOf (m.build config)) (u.build config) = some web := by
  have hbuilt : (u.build config).descriptor = some web := hweb
  have hnone := candidate?_eq_none_iff_exhausted.mpr hexhausted
  obtain ⟨start, hstart, -, hstate⟩ := survey_metadata_eq_ok_iff.mp hfound
  obtain ⟨i, p, hi, hp, rfl⟩ := (prepare_result_eq_ok_iff hbuilt).mp hstart
  obtain ⟨hconflict, candidate, hcandidate, rfl⟩ := Adoption.adopt_result_eq_ok_iff.mp hi
  obtain rfl : none = candidate := Except.ok.inj (hnone.symm.trans hcandidate)
  have hflags : found.SameFlags (inspectedMetadata p (Adoption.inspectionOf config web none)) :=
    hstate ▸ Metadata.sameFlags_classify config _ _
  refine ⟨?_, hflags.dispatcherCreated, ?_⟩
  · rw [hflags.policy]
    exact hp
  · rw [inspectedDescriptor, hbuilt, Option.map_some,
      (Adoption.adopt_of_none hconflict hnone).2]

/-! ### The descriptor that is left -/

/-- The descriptor that a deployment leaves to a unit. -/
def leftDescriptor (config : Config) (m : Manifest) (u : UnitManifest) : Option WebDescriptor :=
  (finalState config (m.build config) (u.build config)).unit.descriptor

theorem leftDescriptor_of_web (hweb : u.descriptor = some web) :
    leftDescriptor config m u = some (Registration.register config (u.build config).loader
      (registering config m u web)).state.descriptor := by
  have hunit : (inheritedState config (m.build config) (u.build config)).unit =
      { u.build config with descriptor := some (registering config m u web).descriptor } :=
    unit_inheritedState_of_web hweb
  have hweb' : (inheritedState config (m.build config) (u.build config)).unit.descriptor =
      some (registering config m u web).descriptor := by rw [hunit]
  rw [leftDescriptor, finalState, dispatched, hweb']
  simp only [UnitState.registered, registrationOf, hunit, metadata_inheritedState]
  rfl

theorem leftDescriptor_of_library (hlibrary : u.descriptor = none) :
    leftDescriptor config m u = none := by
  have hlibrary' : (inheritedState config (m.build config) (u.build config)).unit.descriptor =
      none := by
    rw [inheritedState_unit, survey_unit, inspectedDescriptor]
    exact Option.map_eq_none_iff.mpr hlibrary
  rw [leftDescriptor, finalState, dispatched, hlibrary']
  exact hlibrary'

theorem extendedBy_of_left (hweb : u.descriptor = some web)
    (hleft : leftDescriptor config m u = some left) :
    (registering config m u web).descriptor.ExtendedBy left := by
  rw [leftDescriptor_of_web hweb, Option.some.injEq] at hleft
  rw [← hleft]
  exact Registration.extendedBy_register config (u.build config).loader (registering config m u web)

/-- A deployment changes servlets to the dispatcher class, appends servlets of that class and
appends mappings for applications that count. -/
theorem exists_leftDescriptor (hweb : u.descriptor = some web) :
    ∃ servlets mappings, leftDescriptor config m u = some { web with
        servlets := servlets, servletMappings := web.servletMappings ++ mappings } ∧
      ∀ s ∈ servlets, s ∈ web.servlets ∨
        s.servletClass = some config.dispatcher.servletClass := by
  obtain ⟨adopted, hstate, -, hadopted⟩ := Adoption.adopt_state config
    (hierarchyOf (indexesOf (m.build config)) (u.build config)) (u.build config).loader web
  obtain ⟨p, hadded, hservlets, -⟩ := Registration.exists_added
    (UnitManifest.keepsNames_build config u) config (registering config m u web)
  refine ⟨adopted ++ p.servlets, p.mappings, ?_, fun s hs => ?_⟩
  · rw [leftDescriptor_of_web hweb, hadded, registering, hstate]
    rfl
  · rcases List.mem_append.mp hs with hs | hs
    · exact hadopted s hs
    · exact .inr (hservlets s hs)

/-- What a scan checks in a descriptor besides the servlet classes. -/
structure Declarable (config : Config) (web : WebDescriptor) : Prop where
  no_conflict : ∀ n ∈ web.declaredClasses, config.dispatcher.conflicts n = false
  assignable : ∀ p ∈ web.contextParams, ScanFlag.Assignable p.name p.value

theorem declarable_of_deployable (hweb : u.descriptor = some web) (h : Deployable config m u) :
    Declarable config web := by
  obtain ⟨hconflicts, -, hassignable⟩ := (isOk_survey_web_iff hweb).mp h.1
  exact ⟨hconflicts, hassignable⟩

/-- What a deployment leaves does not conflict, if the dispatcher class itself does not. -/
theorem declarable_leftDescriptor
    (hallowed : config.dispatcher.conflicts config.dispatcher.servletClass = false)
    (hweb : u.descriptor = some web) (hleft : leftDescriptor config m u = some left)
    (h : Declarable config web) : Declarable config left := by
  obtain ⟨servlets, mappings, hsome, hservlets⟩ := exists_leftDescriptor (m := m) hweb
  rw [hsome, Option.some.injEq] at hleft
  subst hleft
  refine ⟨fun n hn => ?_, h.assignable⟩
  rcases WebDescriptor.mem_declaredClasses.mp hn with ⟨s, hs, hclass⟩ | hfilter
  · rcases hservlets s hs with hs | hdispatcher
    · exact h.no_conflict n (WebDescriptor.mem_declaredClasses.mpr (.inl ⟨s, hs, hclass⟩))
    · rw [hclass, Option.some.injEq] at hdispatcher
      rw [hdispatcher]
      exact hallowed
  · exact h.no_conflict n (WebDescriptor.mem_declaredClasses.mpr (.inr hfilter))

/-! ### Descriptors that are left as they are -/

/-- What is left as it is was not changed by the inspection, which changes servlets but not
their number. -/
theorem registering_of_unchanged (hweb : u.descriptor = some web)
    (hsame : leftDescriptor config m u = some web) :
    registering config m u web = ⟨classesOfUnit config m u, web⟩ := by
  obtain ⟨servlets, hstate, hlength, -⟩ := Adoption.adopt_state config
    (hierarchyOf (indexesOf (m.build config)) (u.build config)) (u.build config).loader web
  have hprefix : servlets <+: web.servlets := by
    have hservlets := (extendedBy_of_left hweb hsame).servlets
    rwa [registering, hstate] at hservlets
  rw [registering, hstate, hprefix.eq_of_length hlength]

theorem registering_of_exhausted (hconflicts : web.conflict? config.dispatcher = none)
    (h : Exhausted config m u web) :
    registering config m u web = ⟨classesOfUnit config m u, web⟩ := by
  have hnone := candidate?_eq_none_iff_exhausted.mpr h
  rw [registering, (Adoption.adopt_of_none hconflicts hnone).2]

theorem exhausted_of_registering (hweb : u.descriptor = some web)
    (hfound : (surveyOf config m u).metadata = .ok found)
    (h : (registering config m u web).descriptor = web) : Exhausted config m u web := by
  obtain ⟨hconflict, candidate, hcandidate⟩ := exists_candidate_of_survey hweb hfound
  cases candidate with
  | none => exact candidate?_eq_none_iff_exhausted.mp hcandidate
  | some c => exact absurd h (Adoption.adopt_state_of_some hconflict hcandidate).2

/-- Where nothing was adopted, the registration starts from the descriptor itself, and is
skipped for a boot class only. -/
theorem registered_unchanged_iff (hboot : config.dispatcher.servletClass ∈ config.bootClasses)
    (hweb : u.descriptor = some web) (hfound : (surveyOf config m u).metadata = .ok found)
    (hexhausted : Exhausted config m u web)
    (hregistering : registering config m u web = ⟨classesOfUnit config m u, web⟩) :
    Dispatchable config (inheritedState config (m.build config) (u.build config)) ∧
        leftDescriptor config m u = some web ↔
      (web.declaresBootClass config = false → Registration.NothingToAdd (u.build config).loader
        ⟨classesOfUnit config m u, web⟩) := by
  have hskips := skips_registering_iff hweb hfound
  rw [hregistering, or_iff_left (not_declaresApplication_of_exhausted hexhausted),
    ← not_iff_not, Bool.not_eq_true] at hskips
  rw [dispatchable_iff_register hweb, leftDescriptor_of_web hweb, hregistering,
    Option.some.injEq, ← hskips]
  exact Registration.register_unchanged_iff (UnitManifest.keepsNames_build config u) fun h =>
    WebDescriptor.servletClass_ne_of_no_boot hboot (hskips.mp h)

/-- **When a deployment leaves a descriptor as it is.**  There must be no servlet to adopt
and, unless a boot class is declared, nothing to add. -/
theorem unchanged_iff (hboot : config.dispatcher.servletClass ∈ config.bootClasses)
    (hweb : u.descriptor = some web) :
    Deployable config m u ∧ leftDescriptor config m u = some web ↔
      Declarable config web ∧ Exhausted config m u web ∧
        (web.declaresBootClass config = false → Registration.NothingToAdd (u.build config).loader
          ⟨classesOfUnit config m u, web⟩) := by
  constructor
  · rintro ⟨⟨⟨found, hfound⟩, hdispatch⟩, hsame⟩
    obtain ⟨hconflicts, -, hassignable⟩ := (isOk_survey_web_iff hweb).mp ⟨found, hfound⟩
    have hregistering := registering_of_unchanged hweb hsame
    have hexhausted : Exhausted config m u web :=
      exhausted_of_registering hweb hfound (by rw [hregistering])
    exact ⟨⟨hconflicts, hassignable⟩, hexhausted,
      (registered_unchanged_iff hboot hweb hfound hexhausted hregistering).mp ⟨hdispatch, hsame⟩⟩
  · rintro ⟨⟨hconflicts, hassignable⟩, hexhausted, hnothing⟩
    obtain ⟨found, hfound⟩ := (isOk_survey_web_iff hweb).mpr
      ⟨hconflicts, resolvedThrough_of_exhausted hexhausted, hassignable⟩
    have hregistering := registering_of_exhausted
      ((web.conflict?_eq_none_iff config.dispatcher).mpr hconflicts) hexhausted
    obtain ⟨hdispatch, hsame⟩ :=
      (registered_unchanged_iff hboot hweb hfound hexhausted hregistering).mpr hnothing
    exact ⟨⟨⟨found, hfound⟩, hdispatch⟩, hsame⟩

/-! ### Units that are left without boot class -/

theorem declaresBootClass_of_extendedBy (h : web.ExtendedBy left)
    (hboot : web.declaresBootClass config = true) : left.declaresBootClass config = true := by
  obtain ⟨n, hn, hmem⟩ := WebDescriptor.declaresBootClass_eq_true_iff.mp hboot
  refine WebDescriptor.declaresBootClass_eq_true_iff.mpr ⟨n, ?_, hmem⟩
  rw [WebDescriptor.mem_declaredClasses] at hn ⊢
  rcases hn with ⟨s, hs, hclass⟩ | hfilter
  · exact .inl ⟨s, h.servlets.subset hs, hclass⟩
  · rw [h.filters]
    exact .inr hfilter

/-- The deployment of a web application that declares no boot class, before or after: it adds
nothing but mappings, for applications that count. -/
structure OnlyMaps (config : Config) (m : Manifest) (u : UnitManifest) (web : WebDescriptor)
    (p : Registration.Plan) : Prop where
  exhausted : Exhausted config m u web
  no_servlets : p.servlets = []
  registered : ∀ x ∈ p.mappings, x.servletName ∈
    Registration.registeredNames (classesOfUnit config m u) web
  no_boot : web.declaresBootClass config = false
  no_boot_left : (p.addTo web).declaresBootClass config = false

section LeftWithoutBoot

variable (hboot : config.dispatcher.servletClass ∈ config.bootClasses)
  (hweb : u.descriptor = some web) (hfound : (surveyOf config m u).metadata = .ok found)
  (hleft : leftDescriptor config m u = some left) (hnone : left.declaresBootClass config = false)

include hboot hweb hfound hleft hnone

/-- Where a deployment leaves no boot class, it has adopted no servlet. -/
theorem exhausted_of_left_no_boot : Exhausted config m u web := by
  obtain ⟨hconflict, candidate, hcandidate⟩ := exists_candidate_of_survey hweb hfound
  cases candidate with
  | none => exact candidate?_eq_none_iff_exhausted.mp hcandidate
  | some c =>
      -- the adopted servlet would still run on the dispatcher class
      obtain ⟨⟨s, hs, hclass⟩, -⟩ := Adoption.adopt_state_of_some hconflict hcandidate
      have hs' : s ∈ left.servlets := (extendedBy_of_left hweb hleft).servlets.subset hs
      exact absurd hclass (WebDescriptor.servletClass_ne_of_no_boot hboot hnone s hs')

/-- Where a deployment leaves no boot class, the registration has started from the descriptor
as it was, and has not been skipped. -/
theorem registering_of_left_no_boot :
    registering config m u web = ⟨classesOfUnit config m u, web⟩ ∧
      web.declaresBootClass config = false ∧ ¬ Registration.Skips (classesOfUnit config m u) := by
  have hexhausted := exhausted_of_left_no_boot hboot hweb hfound hleft hnone
  have hregistering := registering_of_exhausted (exists_candidate_of_survey hweb hfound).1
    hexhausted
  have hbefore : web.declaresBootClass config = false := by
    have hextended := extendedBy_of_left hweb hleft
    rw [hregistering] at hextended
    rw [← Bool.not_eq_true] at hnone ⊢
    exact fun h => hnone (declaresBootClass_of_extendedBy hextended h)
  refine ⟨hregistering, hbefore, ?_⟩
  have hskips := skips_registering_iff hweb hfound
  rw [hregistering] at hskips
  rw [hskips, hbefore]
  simp [not_declaresApplication_of_exhausted hexhausted]

theorem exists_onlyMaps : ∃ p, left = p.addTo web ∧ OnlyMaps config m u web p := by
  have hexhausted := exhausted_of_left_no_boot hboot hweb hfound hleft hnone
  obtain ⟨hregistering, hbefore, -⟩ := registering_of_left_no_boot hboot hweb hfound hleft hnone
  rw [leftDescriptor_of_web hweb, hregistering, Option.some.injEq] at hleft
  subst hleft
  obtain ⟨p, hservlets, hadded, hmapped⟩ := Registration.exists_mappings_of_register
    (UnitManifest.keepsNames_build config u) (WebDescriptor.servletClass_ne_of_no_boot hboot hnone)
  rw [hadded] at hnone
  exact ⟨p, hadded, hexhausted, hservlets, hmapped, hbefore, hnone⟩

end LeftWithoutBoot

end RestDeployment.Deployment
