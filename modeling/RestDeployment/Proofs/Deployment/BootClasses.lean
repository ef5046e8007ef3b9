import RestDeployment.Proofs.Deployment.Success

/-!
# Units that boot classes switch off

A web application whose descriptor declares a boot class is deployed without being looked at.
It is not scanned, so it publishes no classes; it has no classes but those that it inherits;
and no dispatcher is registered for it, since its descriptor declares one.  All this holds
whatever its context parameters, its classes and its other servlets are.

## Strategy

The flag is set once, when the descriptor is inspected, from the classes that were submitted
(`hasBootClasses_survey_iff`).  Three stages read it afterwards:

* the policy, which it turns off over any assignments (`ScanPolicy.eq_of_ofDescriptor_boot`);
* the classification, which finds nothing under such a policy (`survey_of_boot`);
* the registration, which asks for it before it asks for an adopted servlet
  (`Registration.register_eq_skipped_iff`).

A merge adds names that dependencies have published and keeps the flags of the unit itself,
so the flag is never inherited.
-/

namespace RestDeployment

/-! ### The stages that read the flag -/

theorem ScanPolicy.eq_of_ofDescriptor_boot {web : WebDescriptor} {p : ScanPolicy}
    (h : ScanPolicy.ofDescriptor web true = .ok p) : p = { hasBootClasses := true } := by
  obtain ⟨-, hfollows⟩ := ScanPolicy.resolve_eq_ok_iff.mp h
  refine ScanPolicy.eq_of_value_eq hfollows.boot fun flag => ?_
  rw [hfollows.off rfl flag]
  cases flag <;> rfl

namespace Registration

variable {config : Config} {loader : ClassLoader} {w : WebState}

/-- A registration is skipped for boot classes exactly if the flag is set. -/
theorem register_eq_skipped_iff :
    (register config loader w).result = .ok (.skipped .bootClasses) ↔
      (w.metadata.hasBootClasses || w.metadata.policy.hasBootClasses) = true := by
  constructor
  · intro hresult
    by_contra hboot
    rw [register, if_neg hboot] at hresult
    by_cases hcreated : w.metadata.dispatcherCreated = true
    · rw [if_pos hcreated] at hresult
      cases hresult
    · rw [if_neg hcreated] at hresult
      cases hnames : registeredNames w.metadata w.descriptor with
      | nil =>
          simp only [hnames, registerDefault] at hresult
          split at hresult <;> cases hresult
      | cons n names =>
          simp only [hnames, registerApplications] at hresult
          split at hresult <;> cases hresult
  · intro hboot
    rw [register, if_pos hboot]

end Registration

namespace Deployment

variable {config : Config} {indexes : Indexes} {units : List BuildUnit} {u : BuildUnit}
  {web : WebDescriptor} {m : Metadata} {name : String}

/-- The unit is a web application with a servlet or filter of a boot class. -/
def DeclaresBootClass (config : Config) (u : BuildUnit) : Prop :=
  ∃ web, u.descriptor = some web ∧ ∃ n ∈ web.declaredClasses, n ∈ config.bootClasses

theorem not_declaresBootClass_of_library (hlibrary : u.descriptor = none) :
    ¬ DeclaresBootClass config u := by
  rintro ⟨web, hweb, -⟩
  rw [hlibrary] at hweb
  cases hweb

/-! ### Scans -/

/-- A scan that goes well has set both flags if the unit declares a boot class, and neither
of them otherwise. -/
theorem hasBootClasses_survey_iff (h : (survey config indexes u).metadata = .ok m) :
    (m.hasBootClasses = true ↔ DeclaresBootClass config u) ∧
      (m.policy.hasBootClasses = true ↔ DeclaresBootClass config u) := by
  obtain ⟨start, hprepare, -, hstate⟩ := survey_metadata_eq_ok_iff.mp h
  have hflags : m.SameFlags start := hstate ▸ Metadata.sameFlags_classify config _ _
  rw [hflags.hasBootClasses, hflags.policy]
  cases hweb : u.descriptor with
  | none =>
      rw [prepare_result_of_library hweb, Except.ok.injEq] at hprepare
      subst hprepare
      simp [Metadata.ofPolicy, ScanPolicy.everything, not_declaresBootClass_of_library hweb]
  | some web =>
      have hdeclares : web.declaresBootClass config = true ↔ DeclaresBootClass config u := by
        rw [WebDescriptor.declaresBootClass_eq_true_iff]
        simp [DeclaresBootClass, hweb]
      obtain ⟨i, p, hi, hp, rfl⟩ := (prepare_result_eq_ok_iff hweb).mp hprepare
      obtain ⟨-, candidate, -, rfl⟩ := Adoption.adopt_result_eq_ok_iff.mp hi
      obtain ⟨hboot, hpolicy⟩ := hasBootClasses_inspectedMetadata hp
      rw [hboot, hpolicy]
      exact ⟨hdeclares, hdeclares⟩

/-- Nothing is scanned for in a unit that declares a boot class, and nothing is found. -/
theorem survey_of_boot (hboot : DeclaresBootClass config u)
    (h : (survey config indexes u).metadata = .ok m) :
    m.policy = { hasBootClasses := true } ∧ m.SameClasses {} := by
  obtain ⟨start, hprepare, -, hstate⟩ := survey_metadata_eq_ok_iff.mp h
  obtain ⟨web, hweb, hdeclared⟩ := hboot
  obtain ⟨i, p, hi, hp, rfl⟩ := (prepare_result_eq_ok_iff hweb).mp hprepare
  obtain ⟨-, candidate, -, rfl⟩ := Adoption.adopt_result_eq_ok_iff.mp hi
  have hflag : web.declaresBootClass config = true :=
    WebDescriptor.declaresBootClass_eq_true_iff.mpr hdeclared
  obtain rfl : p = { hasBootClasses := true } := by
    rw [Adoption.inspectionOf, hflag] at hp
    exact ScanPolicy.eq_of_ofDescriptor_boot hp
  have hnothing : m = inspectedMetadata { hasBootClasses := true } _ :=
    hstate ▸ (Classification.classify_of_not_scans rfl).2
  rw [hnothing]
  exact ⟨rfl, rfl, rfl, rfl, rfl⟩

/-! ### What is left of the unit -/

theorem descriptor_inheritedState :
    (inheritedState config units u).unit.descriptor =
      inspectedDescriptor config (indexesOf units) u := by
  rw [inheritedState_unit, survey_unit]

theorem registration_inheritedState : (inheritedState config units u).registration = none := by
  unfold inheritedState inheriting
  split <;> rfl

section Scanned

variable (hfound : (survey config (indexesOf units) u).metadata = .ok m)

include hfound

/-- The flags are those of the unit itself, whatever it inherits. -/
theorem sameFlags_inheritedState : (inheritedState config units u).metadata.SameFlags m := by
  rw [metadata_inheritedState, ← Survey.found_of_ok hfound]
  exact sameFlags_classesOf

/-- The registration is skipped for boot classes exactly if the unit declares one. -/
theorem registration_finalState_iff :
    (finalState config units u).registration = some (.skipped .bootClasses) ↔
      DeclaresBootClass config u := by
  obtain ⟨hflag, hpolicy⟩ := hasBootClasses_survey_iff hfound
  have hflags := sameFlags_inheritedState hfound
  cases hweb : (inheritedState config units u).unit.descriptor with
  | none =>
      rw [descriptor_inheritedState, inspectedDescriptor, Option.map_eq_none_iff] at hweb
      have hleft : (finalState config units u).registration = none := by
        rw [finalState, dispatched, descriptor_inheritedState, inspectedDescriptor, hweb]
        exact registration_inheritedState
      rw [hleft]
      exact iff_of_false (fun h => by cases h) (not_declaresBootClass_of_library hweb)
  | some left =>
      have hskipped : (registrationOf config (inheritedState config units u) left).result =
          .ok (.skipped .bootClasses) ↔ DeclaresBootClass config u := by
        rw [registrationOf, Registration.register_eq_skipped_iff, hflags.hasBootClasses,
          hflags.policy, Bool.or_eq_true, hflag, hpolicy, or_self]
      have hleft : (finalState config units u).registration =
          (registrationOf config (inheritedState config units u) left).result.toOption := by
        rw [finalState, dispatched, hweb]
      rw [hleft, ← hskipped]
      cases (registrationOf config (inheritedState config units u) left).result with
      | error fault => simp [Except.toOption]
      | ok registration => simp [Except.toOption]

/-- The descriptor is that of the inspection. -/
theorem descriptor_finalState_of_boot (hboot : DeclaresBootClass config u) :
    (finalState config units u).unit.descriptor =
      inspectedDescriptor config (indexesOf units) u := by
  have hskips : Registration.Skips (inheritedState config units u).metadata := by
    left
    rw [(sameFlags_inheritedState hfound).hasBootClasses,
      (hasBootClasses_survey_iff hfound).1.mpr hboot, Bool.true_or]
  rw [← descriptor_inheritedState]
  unfold finalState dispatched
  split
  · rfl
  · next left hweb =>
      rw [hweb]
      show some (registrationOf config (inheritedState config units u) left).state.descriptor =
        some left
      rw [registrationOf, (Registration.register_of_skips hskips).2]

end Scanned

/-! ### Inherited names -/

/-- Every name in a set of the metadata of a unit was published in the same set by one of its
dependencies. -/
def FromDependencies (lookup : String → Option Metadata) (u : BuildUnit) (m : Metadata)
    (names : Metadata → NameSet) : Prop :=
  ∀ n ∈ names m, ∃ d ∈ u.dependencies, d ≠ u.id ∧ ∃ c, lookup d = some c ∧ n ∈ names c

/-- A unit has no classes but those that its dependencies have published. -/
structure OnlyInherited (lookup : String → Option Metadata) (u : BuildUnit) (m : Metadata) :
    Prop where
  applications : FromDependencies lookup u m fun c => c.applications.keys
  resources : FromDependencies lookup u m fun c => c.resources
  providers : FromDependencies lookup u m fun c => c.providers
  jndiResources : FromDependencies lookup u m fun c => c.jndiResources

theorem onlyInherited_of_sameClasses {lookup : String → Option Metadata} (h : m.SameClasses {}) :
    OnlyInherited lookup u m := by
  have hnone : ∀ names : Metadata → NameSet, names m = ∅ → FromDependencies lookup u m names := by
    intro names hempty n hn
    rw [hempty] at hn
    exact absurd hn NameSet.not_mem_empty
  constructor
  · exact hnone _ (congrArg NameMap.keys h.applications)
  · exact hnone _ h.resources
  · exact hnone _ h.providers
  · exact hnone _ h.jndiResources

/-- A union to which the unit itself contributes no class. -/
theorem onlyInherited_of_isUnion {lookup : String → Option Metadata} {found : Metadata}
    (hfound : found.SameClasses {})
    (hunion : m.IsUnion (Metadata.Joined lookup u.id found u.dependencies)) :
    OnlyInherited lookup u m := by
  have hnone : OnlyInherited (fun _ => none) u found := onlyInherited_of_sameClasses hfound
  have hfrom : ∀ names : Metadata → NameSet, FromDependencies (fun _ => none) u found names →
      (∀ n ∈ names m, ∃ c, Metadata.Joined lookup u.id found u.dependencies c ∧ n ∈ names c) →
        FromDependencies lookup u m names := by
    intro names hown hjoined n hn
    obtain ⟨c, rfl | ⟨d, hd, hne, hc⟩, hmem⟩ := hjoined n hn
    · -- the unit itself has no names at all
      obtain ⟨_, _, _, _, hc, -⟩ := hown n hmem
      cases hc
    · exact ⟨d, hd, hne, c, hc, hmem⟩
  constructor
  · exact hfrom _ hnone.applications fun n hn => (hunion.application n).mp hn
  · exact hfrom _ hnone.resources fun n hn => ((hunion.resource n).mp hn).1
  · exact hfrom _ hnone.providers fun n hn => ((hunion.provider n).mp hn).1
  · exact hfrom _ hnone.jndiResources hunion.exists_of_jndi

/-- A unit that declares a boot class is reported with inherited classes only, and with none if
it has no parent. -/
theorem onlyInherited_finalState (hboot : DeclaresBootClass config u)
    (hfound : (survey config (indexesOf units) u).metadata = .ok m) :
    OnlyInherited (published config units) u (finalState config units u).metadata ∧
      (u.parent = none → (finalState config units u).metadata.isEmpty = true) := by
  have hempty : (survey config (indexesOf units) u).found.SameClasses {} := by
    rw [Survey.found_of_ok hfound]
    exact (survey_of_boot hboot hfound).2
  have hclasses := sameClasses_reportedState config .full units u
  cases hparent : u.parent with
  | none =>
      have hown : classesOf config .full units u = (survey config (indexesOf units) u).found := by
        simp [classesOf, hparent]
      rw [hown] at hclasses
      have hreported : (finalState config units u).metadata.SameClasses {} :=
        ⟨hclasses.applications.trans hempty.applications,
          hclasses.resources.trans hempty.resources,
          hclasses.providers.trans hempty.providers,
          hclasses.jndiResources.trans hempty.jndiResources⟩
      exact ⟨onlyInherited_of_sameClasses hreported, fun _ => Metadata.isEmpty_iff.mpr hreported⟩
  | some parent =>
      have hmerge : classesOf config .full units u =
          ((survey config (indexesOf units) u).found.mergeAll (published config units) u.id
            u.dependencies).1 := by
        rw [classesOf, if_pos ⟨rfl, by rw [hparent, Option.isSome_some]⟩]
      have hunion := Metadata.isUnion_mergeAll (published config units) u.id
        (survey config (indexesOf units) u).found u.dependencies
      rw [← hmerge] at hunion
      refine ⟨onlyInherited_of_isUnion hempty (hunion.congr hclasses), fun h => ?_⟩
      cases h

/-! ### The main statement -/

/-- What units have published when all scans are done. -/
def publishedInScans (config : Config) (name : String) (schedules : Schedules)
    (units : List BuildUnit) (id : String) : Option Metadata :=
  (runPhase (scan config (indexesOf units)) schedules.scanning
    (World.start { name := name } units)).value.session.lookup id

theorem publishedInScans_eq {schedules : Schedules} (h : schedules.Complete units.length)
    (hids : (units.map (·.id)).Nodup) :
    publishedInScans config name schedules units = published config units := by
  funext id
  have hscanning : schedules.scanning.Perm
      (List.range (World.start { name := name } units).units.length) := by
    rw [World.start, List.length_map]
    exact h.scanning
  rw [publishedInScans, runPhase_value (isolated_scan config _) (distinct_start _ hids) hscanning,
    ← scannedWorld, lookup_scannedWorld hids]

/-- What is reported about a web application that boot classes switch off, where `lookup` is
what units have published. -/
structure SwitchedOff (config : Config) (lookup : String → Option Metadata)
    (units : List BuildUnit) (u : BuildUnit) (web : WebDescriptor) (x : UnitReport) : Prop where
  scans_nothing : x.metadata.policy.scanAll = false ∧
    x.metadata.policy.scanProviders = false ∧ x.metadata.policy.scanResources = false
  flagged : x.metadata.hasBootClasses = true ∧ x.metadata.policy.hasBootClasses = true
  publishes_nothing : ∃ m, lookup u.id = some m ∧ m.isEmpty = true
  only_inherits : OnlyInherited lookup u x.metadata
  without_parent : u.parent = none → x.metadata.isEmpty = true
  skipped : x.registration = some (.skipped .bootClasses)
  descriptor : x.descriptor =
    some (Adoption.adopt config (hierarchyOf (indexesOf units) u) u.loader web).state
  nothing_appended : ∃ servlets, x.descriptor = some { web with servlets := servlets } ∧
    servlets.length = web.servlets.length

/-- **Boot classes switch a unit off.**  In a full deployment that ends well, a web application
that declares a boot class is not scanned, publishes no classes, inherits what its dependencies
publish and keeps the descriptor of its inspection, also where a servlet was adopted.  No other
unit is skipped for boot classes. -/
theorem switchedOff_of_bootClass (config : Config) (name : String) {units : List BuildUnit}
    {schedules : Schedules} (h : schedules.Complete units.length) {r : Report}
    (hr : (runAlong config .full schedules { name := name } units).result = .ok r)
    {u : BuildUnit} (hu : u ∈ units) :
    ∃ x, r.unit? u.id = some x ∧
      (∀ web, u.descriptor = some web → (∃ n ∈ web.declaredClasses, n ∈ config.bootClasses) →
        SwitchedOff config (publishedInScans config name schedules units) units u web x) ∧
      (¬ DeclaresBootClass config u → x.registration ≠ some (.skipped .bootClasses) ∧
        x.metadata.hasBootClasses = false ∧ x.metadata.policy.hasBootClasses = false) := by
  rw [runAlong_result h] at hr
  obtain ⟨hids, hscan, -⟩ := eq_reports_of_resultOf hr
  obtain ⟨m, hm⟩ := hscan u hu
  obtain ⟨hflag, hpolicy⟩ := hasBootClasses_survey_iff hm
  have hflags : (finalState config units u).metadata.SameFlags m := by
    rw [← Survey.found_of_ok hm]
    exact sameFlags_finalState config units u
  rw [publishedInScans_eq h hids]
  refine ⟨_, unit?_of_resultOf hr hu, ?_, ?_⟩
  · intro web hweb hdeclared
    have hboot : DeclaresBootClass config u := ⟨web, hweb, hdeclared⟩
    obtain ⟨hoff, hempty⟩ := survey_of_boot hboot hm
    obtain ⟨honly, halone⟩ := onlyInherited_finalState hboot hm
    have hdescriptor : (finalState config units u).unit.descriptor =
        some (Adoption.adopt config (hierarchyOf (indexesOf units) u) u.loader web).state := by
      rw [descriptor_finalState_of_boot hm hboot, inspectedDescriptor, hweb, Option.map_some]
    constructor
    · have hnothing : (finalState config units u).metadata.policy = { hasBootClasses := true } :=
        hflags.policy.trans hoff
      exact ⟨congrArg ScanPolicy.scanAll hnothing, congrArg ScanPolicy.scanProviders hnothing,
        congrArg ScanPolicy.scanResources hnothing⟩
    · have hset : (finalState config units u).metadata.policy.hasBootClasses =
          m.policy.hasBootClasses := by rw [hflags.policy]
      exact ⟨hflags.hasBootClasses.trans (hflag.mpr hboot), hset.trans (hpolicy.mpr hboot)⟩
    · exact ⟨m, published_of_mem hids hu hm, Metadata.isEmpty_iff.mpr hempty⟩
    · exact honly
    · exact halone
    · exact (registration_finalState_iff hm).mpr hboot
    · exact hdescriptor
    · obtain ⟨servlets, hstate, hlength, -⟩ := Adoption.adopt_state config
        (hierarchyOf (indexesOf units) u) u.loader web
      exact ⟨servlets, by rw [← hstate]; exact hdescriptor, hlength⟩
  · intro hboot
    refine ⟨fun hskipped => hboot ((registration_finalState_iff hm).mp hskipped), ?_, ?_⟩
    · show (finalState config units u).metadata.hasBootClasses = false
      rw [hflags.hasBootClasses, ← Bool.not_eq_true, hflag]
      exact hboot
    · show (finalState config units u).metadata.policy.hasBootClasses = false
      rw [hflags.policy, ← Bool.not_eq_true, hpolicy]
      exact hboot

/-- A web application that declares a boot class in front of a servlet of its own application,
asks for a scan and inherits from a library; behind it one without boot class. -/
def bootedShop : Manifest where
  deployment := "shop"
  units :=
    [{ id := "lib", classes := [plainClass "Items" [ pathAnnotation] none] },
      { id := "web", parent := some "ear", dependencies := ["lib"],
        classes := [plainClass "Shop" [] (some applicationClass),
          plainClass "Status" [ pathAnnotation] none]
        descriptor := some {
          servlets := [{ name := "boot", servletClass := some dispatcherClass },
            { name := "shop", servletClass := some "Shop" }]
          contextParams := [⟨"jaxrs.scan", some "true"⟩] } },
      { id := "plain", descriptor := some {} }]
where
  dispatcherClass : String := "org.jboss.wsf.spi.deployment.WSFServlet"

/-- The booted web application adopts its servlet, is skipped for its boot class and has the
class of the library and none of its own. -/
theorem switchedOff_of_bootClass_bootedShop :
    ∃ r x y, (runFresh {} .full "shop" (bootedShop.build {})).result = .ok r ∧
      r.unit? "web" = some x ∧ r.unit? "plain" = some y ∧
      x.metadata.dispatcherCreated = true ∧ x.metadata.resources.toList = ["Items"] ∧
      x.registration = some (.skipped .bootClasses) ∧
      FromDependencies (publishedInScans {} "shop" (inOrder (bootedShop.build {}))
        (bootedShop.build {})) ((bootedShop.build {})[1]) x.metadata (·.resources) ∧
      y.registration ≠ some (.skipped .bootClasses) := by
  obtain ⟨r, x, hr, hx, hcheck⟩ := exists_unit?_of_any
    (runFresh {} .full "shop" (bootedShop.build {})).result "web"
    (fun x => decide (x.metadata.dispatcherCreated = true ∧
      x.metadata.resources.toList = ["Items"])) (by decide +kernel)
  have hlength : (bootedShop.build {}).length = 3 := rfl
  obtain ⟨x', hx', hoff, -⟩ := switchedOff_of_bootClass {} "shop" (complete_inOrder _) hr
    (u := (bootedShop.build {})[1]) (List.getElem_mem _)
  obtain ⟨y, hy, -, hon⟩ := switchedOff_of_bootClass {} "shop" (complete_inOrder _) hr
    (u := (bootedShop.build {})[2]) (List.getElem_mem _)
  obtain rfl : x = x' := Option.some.inj (hx.symm.trans hx')
  have hswitched := hoff _ rfl ⟨bootedShop.dispatcherClass, by decide, by decide⟩
  have hplain : ¬ DeclaresBootClass {} ((bootedShop.build {})[2]) := by
    rintro ⟨web, hweb, n, hn, -⟩
    cases hweb
    cases hn
  obtain ⟨hcreated, hresources⟩ : x.metadata.dispatcherCreated = true ∧
      x.metadata.resources.toList = ["Items"] := by simpa using hcheck
  exact ⟨r, x, y, hr, hx, hy, hcreated, hresources, hswitched.skipped,
    hswitched.only_inherits.resources, (hon hplain).1⟩

end Deployment

end RestDeployment
