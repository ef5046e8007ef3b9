import RestDeployment.Proofs.Deployment.Contributions
import RestDeployment.Proofs.Deployment.Descriptors

/-!
# Deploying again what a deployment has left

`Manifest.redeployed` is a manifest with the descriptors that a deployment of it has reported.
Its deployment changes no descriptor exactly if all of them are settled, which is what
`unchanged_iff` says about the second manifest (`redeploys_unchanged_iff`).  Where web
applications inherit from libraries only, it is enough that no declared servlet is left to
adopt (`settled_of_exhausted`).  That fails as soon as a descriptor has declared servlets for
two applications: every deployment adopts the next one (`not_redeployment_unchanged`).

## Strategy

A descriptor that declares a boot class is settled if no servlet is left to adopt, for nothing
is registered then.  One that declares none has got nothing but mappings the first time
(`OnlyMaps`), and the registration has mapped every application that counts.  It remains to
see that the same applications count the second time (`registeredNames_again`).  Of its own
classes a unit may find more, because a mapping makes it keep an application without path, but
only where the application counts already.  Libraries have no descriptor, so they contribute
what they have contributed before.
-/

namespace RestDeployment

/-- The descriptor that is reported for a unit. -/
def Deployment.Report.descriptor? (r : Deployment.Report) (id : String) : Option WebDescriptor :=
  (r.unit? id).bind (·.descriptor)

/-- The unit with the descriptor that is reported for it. -/
def UnitManifest.redeployed (u : UnitManifest) (r : Deployment.Report) : UnitManifest :=
  { u with descriptor := r.descriptor? u.id }

/-- The manifest with the descriptors that are reported for its units. -/
def Manifest.redeployed (m : Manifest) (r : Deployment.Report) : Manifest :=
  { m with units := m.units.map (·.redeployed r) }

namespace Deployment

variable {config : Config} {m : Manifest} {u : UnitManifest} {web left : WebDescriptor}
  {found again : Metadata} {p : Registration.Plan} {name n : String} {r : Report}

/-! ### The manifest of the second deployment -/

theorem indexesOf_redeployed (config : Config) (m : Manifest) (r : Report) :
    indexesOf ((m.redeployed r).build config) = indexesOf (m.build config) := by
  funext id
  simp only [indexesOf, Manifest.build, Manifest.redeployed, List.map_map, List.find?_map,
    Option.map_map]
  rfl

theorem surveyOf_redeployed (config : Config) (m : Manifest) (r : Report) (u : UnitManifest) :
    surveyOf config (m.redeployed r) u = surveyOf config m u := by
  rw [surveyOf, indexesOf_redeployed]

theorem ids_redeployed (m : Manifest) (r : Report) :
    (m.redeployed r).units.map (·.id) = m.units.map (·.id) := by
  rw [Manifest.redeployed, List.map_map]
  rfl

/-- Descriptors make no difference for what a unit takes for an application. -/
theorem seesApplication_redeployed :
    SeesApplication config (m.redeployed r) (u.redeployed r) n ↔ SeesApplication config m u n := by
  rw [SeesApplication, indexesOf_redeployed]
  rfl

theorem exhausted_redeployed :
    Exhausted config (m.redeployed r) (u.redeployed r) web ↔ Exhausted config m u web := by
  simp only [Exhausted, seesApplication_redeployed]
  rfl

theorem descriptor?_of_resultOf (hr : resultOf config .full { name := name } (m.build config) =
    .ok r) (hu : u ∈ m.units) : r.descriptor? u.id = leftDescriptor config m u := by
  have hunit := unit?_of_resultOf hr (List.mem_map_of_mem hu)
  have hid : (u.build config).id = u.id := rfl
  rw [hid] at hunit
  rw [Report.descriptor?, hunit]
  rfl

/-! ### Which applications count the second time -/

theorem kept_addTo_iff {c : ClassEntry} {a : Application} :
    Classification.Kept (some (p.addTo web)) c a ↔ Classification.Kept (some web) c a ∨
      c.isAbstract = false ∧ Application.ofEntry c = a ∧
        ∃ x ∈ p.mappings, x.servletName = a.name := by
  simp only [Classification.Kept, Classification.keeps, Option.all_some, Application.isRegistered,
    Bool.or_eq_true, Registration.isMapped_addTo, ← or_assoc, ← and_or_left]

section OnlyMaps

variable (honly : OnlyMaps config m u web p) (hweb : u.descriptor = some web)
  (hagain : (u.redeployed r).descriptor = some (p.addTo web))
  (hfound : (surveyOf config m u).metadata = .ok found)
  (hfoundAgain : (surveyOf config (m.redeployed r) (u.redeployed r)).metadata = .ok again)

include honly hweb hagain hfound hfoundAgain

/-- With more mappings a scan finds more applications only where a name has been mapped, and
those have no path. -/
theorem get?_applications_again (n : String) (a : Application) :
    (found.applications.get? n = some a → again.applications.get? n = some a) ∧
      (again.applications.get? n = some a → found.applications.get? n = some a ∨
        a.path = none ∧ ∃ x ∈ p.mappings, x.servletName = n) := by
  have hexhaustedAgain : Exhausted config (m.redeployed r) (u.redeployed r) (p.addTo web) :=
    exhausted_redeployed.mpr ((exhausted_addTo_iff honly.no_servlets).mpr honly.exhausted)
  obtain ⟨hpolicy, hcreated, hinspected⟩ := scan_of_exhausted hweb hfound honly.exhausted
  obtain ⟨hpolicyAgain, hcreatedAgain, hinspectedAgain⟩ :=
    scan_of_exhausted hagain hfoundAgain hexhaustedAgain
  have hsame : again.policy = found.policy := by
    rw [honly.no_boot] at hpolicy
    rw [honly.no_boot_left] at hpolicyAgain
    exact Except.ok.inj (hpolicyAgain.symm.trans hpolicy)
  -- both scans look at the same candidates
  have hindex : ((u.redeployed r).build config).index = (u.build config).index := rfl
  rw [get?_applications_survey hfound, get?_applications_survey hfoundAgain, hcreated,
    hcreatedAgain, hinspected, hinspectedAgain, hsame, hindex]
  constructor
  · rintro ⟨hscans, -, c, hc, hname, hkept⟩
    exact ⟨hscans, rfl, c, hc, hname, kept_addTo_iff.mpr (.inl hkept)⟩
  · rintro ⟨hscans, -, c, hc, hname, hkept⟩
    rcases kept_addTo_iff.mp hkept with hkept | ⟨habstract, rfl, x, hx, hmapped⟩
    · exact .inl ⟨hscans, rfl, c, hc, hname, hkept⟩
    · cases hpath : (Application.ofEntry c).path with
      | none => exact .inr ⟨rfl, x, hx, hmapped.trans hname⟩
      | some q =>
          -- an application with a path is kept in any case
          refine .inl ⟨hscans, rfl, c, hc, hname, habstract, rfl, ?_⟩
          simp [Classification.keeps, Application.isRegistered, Application.isAnnotated, hpath]

theorem pathOf_again (n q : String) : again.pathOf n = some q ↔ found.pathOf n = some q := by
  have hown := get?_applications_again honly hweb hagain hfound hfoundAgain n
  rw [Metadata.pathOf, Metadata.pathOf, Option.bind_eq_some_iff, Option.bind_eq_some_iff]
  constructor
  · rintro ⟨a, ha, hpath⟩
    rcases (hown a).2 ha with ha | ⟨hnone, -⟩
    · exact ⟨a, ha, hpath⟩
    · rw [hnone] at hpath
      cases hpath
  · rintro ⟨a, ha, hpath⟩
    exact ⟨a, (hown a).1 ha, hpath⟩

theorem mem_keys_again (h : n ∈ found.applications.keys) : n ∈ again.applications.keys := by
  have hown := get?_applications_again honly hweb hagain hfound hfoundAgain n
  rw [NameMap.mem_keys, Option.isSome_iff_exists] at h ⊢
  obtain ⟨a, ha⟩ := h
  exact ⟨a, (hown a).1 ha⟩

theorem mem_keys_or_registered_of_again (h : n ∈ again.applications.keys) :
    n ∈ found.applications.keys ∨
      n ∈ Registration.registeredNames (classesOfUnit config m u) web := by
  have hown := get?_applications_again honly hweb hagain hfound hfoundAgain n
  rw [NameMap.mem_keys, Option.isSome_iff_exists] at h ⊢
  obtain ⟨a, ha⟩ := h
  rcases (hown a).2 ha with ha | ⟨-, x, hx, rfl⟩
  · exact .inl ⟨a, ha⟩
  · exact .inr (honly.registered x hx)

end OnlyMaps

/-- A unit with a parent depends on libraries only, as far as its dependencies are submitted. -/
def InheritsFromLibraries (m : Manifest) (u : UnitManifest) : Prop :=
  u.parent.isSome = true → ∀ v ∈ m.units, v.id ∈ u.dependencies → v.id ≠ u.id →
    v.descriptor = none

/-- Libraries are submitted again as they were. -/
theorem ofInherited_redeployed
    (hr : resultOf config .full { name := name } (m.build config) = .ok r)
    (hlibraries : InheritsFromLibraries m u) (P : UnitManifest → Prop) :
    OfInherited (m.redeployed r) (u.redeployed r) P ↔ OfInherited m u P := by
  have hsame : ∀ v ∈ m.units, u.parent.isSome = true → v.id ∈ u.dependencies → v.id ≠ u.id →
      v.redeployed r = v := by
    intro v hv hparent hd hvu
    have hlibrary : v.descriptor = none := hlibraries hparent v hv hd hvu
    rw [UnitManifest.redeployed, descriptor?_of_resultOf hr hv,
      leftDescriptor_of_library hlibrary, ← hlibrary]
  constructor
  · rintro ⟨_, hmem, hparent, hd, hvu, hP⟩
    obtain ⟨v, hv, rfl⟩ := List.mem_map.mp hmem
    rw [hsame v hv hparent hd hvu] at hP
    exact ⟨v, hv, hparent, hd, hvu, hP⟩
  · rintro ⟨v, hv, hparent, hd, hvu, hP⟩
    refine ⟨v.redeployed r, List.mem_map_of_mem hv, hparent, hd, hvu, ?_⟩
    rw [hsame v hv hparent hd hvu]
    exact hP

/-- **The same applications count the second time**, in a unit that inherits from libraries
only and has got nothing but mappings the first time. -/
theorem registeredNames_again
    (hr : resultOf config .full { name := name } (m.build config) = .ok r) (hu : u ∈ m.units)
    (hscanAgain : Scannable config ((m.redeployed r).build config))
    (hlibraries : InheritsFromLibraries m u) (honly : OnlyMaps config m u web p)
    (hweb : u.descriptor = some web) (hagain : (u.redeployed r).descriptor = some (p.addTo web))
    (n : String) :
    n ∈ Registration.registeredNames (classesOfUnit config (m.redeployed r) (u.redeployed r))
        (p.addTo web) ↔
      n ∈ Registration.registeredNames (classesOfUnit config m u) web := by
  have huAgain : u.redeployed r ∈ (m.redeployed r).units := List.mem_map_of_mem hu
  obtain ⟨hids, hscan, -⟩ := resultOf_full_eq_ok_iff.mp hr
  rw [ids_build] at hids
  have hidsAgain : ((m.redeployed r).units.map (·.id)).Nodup := by rwa [ids_redeployed]
  obtain ⟨found, hfound⟩ := hscan _ (List.mem_map_of_mem hu)
  obtain ⟨again, hfoundAgain⟩ := hscanAgain _ (List.mem_map_of_mem huAgain)
  have hpath : ((classesOfUnit config (m.redeployed r) (u.redeployed r)).pathOf n).isSome = true ↔
      ((classesOfUnit config m u).pathOf n).isSome = true := by
    rw [isSome_pathOf_classesOfUnit hidsAgain huAgain hscanAgain hfoundAgain,
      isSome_pathOf_classesOfUnit hids hu hscan hfound]
    simp only [surveyOf_redeployed, pathOf_again honly hweb hagain hfound hfoundAgain,
      ofInherited_redeployed hr hlibraries]
  have hcounts := mem_registeredNames_classesOfUnit (n := n) hids hu hscan hfound web
  rw [mem_registeredNames_classesOfUnit hidsAgain huAgain hscanAgain hfoundAgain, hpath,
    Registration.isMapped_addTo]
  simp only [surveyOf_redeployed, ofInherited_redeployed hr hlibraries]
  constructor
  · rintro ⟨hkey, hcount⟩
    by_cases hbefore : ((classesOfUnit config m u).pathOf n).isSome = true ∨ web.isMapped n = true
    · rcases hkey with hkey | hinherited
      · rcases mem_keys_or_registered_of_again honly hweb hagain hfound hfoundAgain hkey
          with hkey | hn
        · exact hcounts.mpr ⟨.inl hkey, hbefore⟩
        · exact hn
      · exact hcounts.mpr ⟨.inr hinherited, hbefore⟩
    · -- the name has been mapped by the first deployment
      obtain ⟨hnopath, hunmapped⟩ := not_or.mp hbefore
      obtain ⟨x, hx, rfl⟩ := (hcount.resolve_left hnopath).resolve_left hunmapped
      exact honly.registered x hx
  · intro hn
    obtain ⟨hkey, hcount⟩ := hcounts.mp hn
    exact ⟨hkey.imp_left (mem_keys_again honly hweb hagain hfound hfoundAgain),
      hcount.imp_right .inl⟩

/-! ### Second deployments -/

/-- What it takes for a second deployment to leave a descriptor as the first has left it:
there is no servlet to adopt and, unless a boot class is declared, nothing to add. -/
structure Settled (config : Config) (m : Manifest) (r : Report) (u : UnitManifest)
    (left : WebDescriptor) : Prop where
  exhausted : Exhausted config m u left
  nothing_to_add : left.declaresBootClass config = false →
    Registration.NothingToAdd (u.build config).loader
      ⟨classesOfUnit config (m.redeployed r) (u.redeployed r), left⟩

section Redeployed

variable (hallowed : config.dispatcher.conflicts config.dispatcher.servletClass = false)
  (hr : resultOf config .full { name := name } (m.build config) = .ok r)

include hallowed hr

theorem declarable_redeployed (hu : u ∈ m.units) (hleft : r.descriptor? u.id = some left) :
    Declarable config left := by
  have hdeployable : Deployable config m u := (isOk_resultOf_build_iff.mp ⟨r, hr⟩).2 u hu
  rw [descriptor?_of_resultOf hr hu] at hleft
  cases hweb : u.descriptor with
  | none =>
      rw [leftDescriptor_of_library hweb] at hleft
      cases hleft
  | some web =>
      have hdeclarable := declarable_of_deployable hweb hdeployable
      exact declarable_leftDescriptor hallowed hweb hleft hdeclarable

theorem scannable_redeployed (hexhausted : ∀ u ∈ m.units, ∀ left,
    r.descriptor? u.id = some left → Exhausted config m u left) :
    Scannable config ((m.redeployed r).build config) := by
  intro b hb
  obtain ⟨u', hu', rfl⟩ := List.mem_map.mp hb
  obtain ⟨u, hu, rfl⟩ := List.mem_map.mp hu'
  cases hleft : r.descriptor? u.id with
  | none => exact (deployable_of_library config (m.redeployed r) hleft).1
  | some left =>
      obtain ⟨hconflicts, hassignable⟩ := declarable_redeployed hallowed hr hu hleft
      have hagain : Exhausted config (m.redeployed r) (u.redeployed r) left :=
        exhausted_redeployed.mpr (hexhausted u hu left hleft)
      exact (isOk_survey_web_iff hleft).mpr
        ⟨hconflicts, resolvedThrough_of_exhausted hagain, hassignable⟩

variable (hboot : config.dispatcher.servletClass ∈ config.bootClasses)

include hboot

theorem settled_iff (hu : u ∈ m.units) (hleft : r.descriptor? u.id = some left) :
    Deployable config (m.redeployed r) (u.redeployed r) ∧
        leftDescriptor config (m.redeployed r) (u.redeployed r) = some left ↔
      Settled config m r u left := by
  have hagain : (u.redeployed r).descriptor = some left := hleft
  have hdeclarable := declarable_redeployed hallowed hr hu hleft
  rw [unchanged_iff hboot hagain, exhausted_redeployed]
  constructor
  · rintro ⟨-, hexhausted, hnothing⟩
    exact ⟨hexhausted, hnothing⟩
  · rintro ⟨hexhausted, hnothing⟩
    exact ⟨hdeclarable, hexhausted, hnothing⟩

/-- A second deployment ends well and changes no descriptor exactly if all are settled. -/
theorem redeploys_unchanged_iff :
    (∃ again, resultOf config .full { name := name } ((m.redeployed r).build config) = .ok again ∧
        ∀ u ∈ m.units, again.descriptor? u.id = r.descriptor? u.id) ↔
      ∀ u ∈ m.units, ∀ left, r.descriptor? u.id = some left → Settled config m r u left := by
  constructor
  · rintro ⟨again, hagain, hsame⟩ u hu left hleft
    have huAgain : u.redeployed r ∈ (m.redeployed r).units := List.mem_map_of_mem hu
    refine (settled_iff hallowed hr hboot hu hleft).mp ⟨?_, ?_⟩
    · exact (isOk_resultOf_build_iff.mp ⟨again, hagain⟩).2 _ huAgain
    · rw [← descriptor?_of_resultOf hagain huAgain, ← hleft]
      exact hsame u hu
  · intro hsettled
    have hdeployable : ∀ u' ∈ (m.redeployed r).units, Deployable config (m.redeployed r) u' := by
      intro u' hu'
      obtain ⟨u, hu, rfl⟩ := List.mem_map.mp hu'
      cases hleft : r.descriptor? u.id with
      | none => exact deployable_of_library config _ hleft
      | some left =>
          exact ((settled_iff hallowed hr hboot hu hleft).mpr (hsettled u hu left hleft)).1
    have hids : ((m.redeployed r).units.map (·.id)).Nodup := by
      rw [ids_redeployed]
      exact (isOk_resultOf_build_iff.mp ⟨r, hr⟩).1
    obtain ⟨again, hagain⟩ := isOk_resultOf_build_iff.mpr ⟨hids, hdeployable⟩
    refine ⟨again, hagain, fun u hu => ?_⟩
    have hdescriptor := descriptor?_of_resultOf hagain (List.mem_map_of_mem hu)
    cases hleft : r.descriptor? u.id with
    | none => exact hdescriptor.trans (leftDescriptor_of_library hleft)
    | some left =>
        exact hdescriptor.trans
          ((settled_iff hallowed hr hboot hu hleft).mpr (hsettled u hu left hleft)).2

/-- Where web applications inherit from libraries only, nothing but a further application
among the declared servlets can be in the way. -/
theorem settled_of_exhausted (hlibraries : ∀ u ∈ m.units, InheritsFromLibraries m u)
    (hexhausted : ∀ u ∈ m.units, ∀ left, r.descriptor? u.id = some left →
      Exhausted config m u left) (hu : u ∈ m.units) (hleft : r.descriptor? u.id = some left) :
    Settled config m r u left := by
  refine ⟨hexhausted u hu left hleft, fun hnone => ?_⟩
  obtain ⟨⟨found, hfound⟩, hdispatch⟩ := (isOk_resultOf_build_iff.mp ⟨r, hr⟩).2 u hu
  have hsome : leftDescriptor config m u = some left := by
    rw [← descriptor?_of_resultOf hr hu, hleft]
  cases hweb : u.descriptor with
  | none =>
      rw [leftDescriptor_of_library hweb] at hsome
      cases hsome
  | some web =>
      -- the first deployment has added nothing but mappings
      obtain ⟨hregistering, -, hskips⟩ :=
        registering_of_left_no_boot hboot hweb hfound hsome hnone
      obtain ⟨p, rfl, honly⟩ := exists_onlyMaps hboot hweb hfound hsome hnone
      -- so the same applications count in the second one
      have hsame := registeredNames_again hr hu (scannable_redeployed hallowed hr hexhausted)
        (hlibraries u hu) honly hweb hleft
      rw [dispatchable_iff_register hweb, hregistering] at hdispatch
      rw [leftDescriptor_of_web hweb, hregistering, Option.some.injEq] at hsome
      have hnothing := Registration.nothingToAdd_of_register
        (UnitManifest.keepsNames_build config u) hskips hdispatch
        (m := classesOfUnit config (m.redeployed r) (u.redeployed r))
      rw [hsome] at hnothing
      exact hnothing (WebDescriptor.servletClass_ne_of_no_boot hboot hnone) hsame

end Redeployed

/-! ### The main statement -/

/-- **When redeployment changes nothing.**  Submitting the descriptors that a deployment has
left ends well and leaves them as they are exactly if all are settled.  Where web
applications inherit from libraries only, that is a matter of the declared servlets alone:
there must be no further application among their classes, and all of them must be loadable. -/
theorem redeployment_unchanged_iff (name : String) {m : Manifest}
    {schedules schedules' : Schedules} (h : schedules.Complete (m.build {}).length) {r : Report}
    (hr : (runAlong {} .full schedules { name := name } (m.build {})).result = .ok r)
    (h' : schedules'.Complete ((m.redeployed r).build {}).length) :
    ((∃ again, (runAlong {} .full schedules' { name := name }
          ((m.redeployed r).build {})).result = .ok again ∧
        ∀ u ∈ m.units, again.descriptor? u.id = r.descriptor? u.id) ↔
      ∀ u ∈ m.units, ∀ left, r.descriptor? u.id = some left → Settled {} m r u left) ∧
    ((∀ u ∈ m.units, InheritsFromLibraries m u) →
      ((∃ again, (runAlong {} .full schedules' { name := name }
            ((m.redeployed r).build {})).result = .ok again ∧
          ∀ u ∈ m.units, again.descriptor? u.id = r.descriptor? u.id) ↔
        ∀ u ∈ m.units, ∀ left, r.descriptor? u.id = some left → Exhausted {} m u left)) := by
  rw [runAlong_result h] at hr
  rw [runAlong_result h']
  have hboot : ({} : Config).dispatcher.servletClass ∈ ({} : Config).bootClasses :=
    List.mem_singleton_self _
  have hallowed : ({} : Config).dispatcher.conflicts ({} : Dispatcher).servletClass = false := by
    decide +kernel
  have hsettled := redeploys_unchanged_iff hallowed hr hboot
  refine ⟨hsettled, fun hlibraries => hsettled.trans ⟨fun hall u hu left hleft => ?_,
    fun hall u hu left hleft => ?_⟩⟩
  · exact (hall u hu left hleft).exhausted
  · exact settled_of_exhausted hallowed hr hboot hlibraries hall hu hleft

/-- A web application that declares a servlet for each of two applications. -/
def twoApplications : Manifest where
  deployment := "shop"
  units :=
    [{ id := "web"
       classes := [plainClass "a.Shop" [] (some applicationClass),
         plainClass "a.Admin" [] (some applicationClass)]
       descriptor := some { servlets := [{ name := "shop", servletClass := some "a.Shop" },
         { name := "admin", servletClass := some "a.Admin" }] } }]

theorem exists_second_of_any (m : Manifest) (p : Report → Report → Bool)
    (h : ((runFresh {} .full m.deployment (m.build {})).result.toOption.any fun r =>
      (runFresh {} .full m.deployment ((m.redeployed r).build {})).result.toOption.any (p r)) =
        true) :
    ∃ r again, (runFresh {} .full m.deployment (m.build {})).result = .ok r ∧
      (runFresh {} .full m.deployment ((m.redeployed r).build {})).result = .ok again ∧
      p r again = true := by
  cases hr : (runFresh {} .full m.deployment (m.build {})).result with
  | error failure => simp [hr, Except.toOption] at h
  | ok r =>
      cases hagain : (runFresh {} .full m.deployment ((m.redeployed r).build {})).result with
      | error failure => simp [hr, hagain, Except.toOption] at h
      | ok again => exact ⟨r, again, rfl, hagain, by simpa [hr, hagain, Except.toOption] using h⟩

/-- The first deployment adopts one of the two servlets, and the second deployment the other. -/
theorem not_redeployment_unchanged :
    ∃ r again left left', (runFresh {} .full "shop" (twoApplications.build {})).result = .ok r ∧
      (runFresh {} .full "shop" ((twoApplications.redeployed r).build {})).result = .ok again ∧
      r.descriptor? "web" = some left ∧ again.descriptor? "web" = some left' ∧
      left.servlets.map (·.servletClass) =
        [some ({} : Dispatcher).servletClass, some "a.Admin"] ∧
      left'.servlets.map (·.servletClass) =
        [some ({} : Dispatcher).servletClass, some ({} : Dispatcher).servletClass] := by
  obtain ⟨r, again, hr, hagain, hclasses⟩ := exists_second_of_any twoApplications
    (fun r again => decide
      ((r.descriptor? "web").map (fun left => left.servlets.map (·.servletClass)) =
          some [some ({} : Dispatcher).servletClass, some "a.Admin"] ∧
        (again.descriptor? "web").map (fun left => left.servlets.map (·.servletClass)) =
          some [some ({} : Dispatcher).servletClass, some ({} : Dispatcher).servletClass]))
    (by decide +kernel)
  obtain ⟨hfirst, hsecond⟩ := of_decide_eq_true hclasses
  obtain ⟨left, hleft, hfirst⟩ := Option.map_eq_some_iff.mp hfirst
  obtain ⟨left', hleft', hsecond⟩ := Option.map_eq_some_iff.mp hsecond
  exact ⟨r, again, left, left', hr, hagain, hleft, hleft', hfirst, hsecond⟩

/-- Of the two web applications, the one that inherits its application from a library keeps
its descriptor, for it declares no further application. -/
theorem redeployment_unchanged_iff_sharedApplication :
    (∃ r again left, (runFresh {} .full "shop" ((sharedApplication ["Shop"]).build {})).result =
          .ok r ∧
        (runFresh {} .full "shop" (((sharedApplication ["Shop"]).redeployed r).build {})).result =
          .ok again ∧
        r.descriptor? "web" = some left ∧ again.descriptor? "web" = some left ∧
        ∃ u ∈ (sharedApplication ["Shop"]).units, Settled {} (sharedApplication ["Shop"]) r u left ∧
          Exhausted {} (sharedApplication ["Shop"]) u left) ∧
      ∃ r, (runFresh {} .full "shop" (twoApplications.build {})).result = .ok r ∧
        ∃ u ∈ twoApplications.units, ∃ left, r.descriptor? u.id = some left ∧
          ¬ Exhausted {} twoApplications u left := by
  constructor
  · obtain ⟨r, again, hr, hagain, hsame⟩ := exists_second_of_any (sharedApplication ["Shop"])
      (fun r again => decide ((r.descriptor? "web").isSome = true ∧
        again.descriptor? "lib" = r.descriptor? "lib" ∧
        again.descriptor? "web" = r.descriptor? "web")) (by decide +kernel)
    obtain ⟨hsome, hlib, hweb⟩ := of_decide_eq_true hsame
    obtain ⟨left, hleft⟩ := Option.isSome_iff_exists.mp hsome
    have hlibraries : ∀ u ∈ (sharedApplication ["Shop"]).units,
        InheritsFromLibraries (sharedApplication ["Shop"]) u := by
      simp [sharedApplication, InheritsFromLibraries]
    have hunchanged : ∀ u ∈ (sharedApplication ["Shop"]).units,
        again.descriptor? u.id = r.descriptor? u.id := by
      simp [sharedApplication, hlib, hweb]
    obtain ⟨hsettled, hexhausted⟩ := redeployment_unchanged_iff "shop" (complete_inOrder _) hr
      (complete_inOrder ((sharedApplication ["Shop"]).redeployed r |>.build {}))
    refine ⟨r, again, left, hr, hagain, hleft, hweb.trans hleft,
      (sharedApplication ["Shop"]).units[1], List.getElem_mem _, ?_, ?_⟩
    · exact hsettled.mp ⟨again, hagain, hunchanged⟩ _ (List.getElem_mem _) left hleft
    · exact (hexhausted hlibraries).mp ⟨again, hagain, hunchanged⟩ _ (List.getElem_mem _) left hleft
  · obtain ⟨r, again, hr, hagain, hchanged⟩ := exists_second_of_any twoApplications
      (fun r again => decide (again.descriptor? "web" ≠ r.descriptor? "web")) (by decide +kernel)
    obtain ⟨-, hexhausted⟩ := redeployment_unchanged_iff "shop" (complete_inOrder _) hr
      (complete_inOrder ((twoApplications.redeployed r).build {}))
    have hlibraries : ∀ u ∈ twoApplications.units, InheritsFromLibraries twoApplications u := by
      simp [twoApplications, InheritsFromLibraries]
    refine ⟨r, hr, ?_⟩
    by_contra hnone
    have hall : ∀ u ∈ twoApplications.units, ∀ left, r.descriptor? u.id = some left →
        Exhausted {} twoApplications u left := fun u hu left hleft =>
      by_contra fun hnot => hnone ⟨u, hu, left, hleft, hnot⟩
    obtain ⟨again', hagain', hunchanged⟩ := (hexhausted hlibraries).mpr hall
    obtain rfl : again = again' := Except.ok.inj (hagain.symm.trans hagain')
    exact of_decide_eq_true hchanged (hunchanged _ List.mem_cons_self)

end Deployment

end RestDeployment
