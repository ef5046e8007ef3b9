import RestDeployment.Proofs.ClassTable.Superclasses
import RestDeployment.Proofs.Deployment.Contributions
import RestDeployment.Proofs.Hierarchy

/-!
# Which classes of a unit are applications

Two parts of a scan look for applications among superclasses.  The inspection of a descriptor
walks up a hierarchy that begins with the unit's own index and goes on with those of its
dependencies.  The classification asks the own index for everything below the application
class.  `applications_iff_inherits` says what both find.

They agree on chains that stay in the own index.  A chain that leaves it, for a base class of
a dependency, is followed by the inspection only, so a class may be an application to the one
and nothing to the other (`not_agree_on_applications`).
-/

namespace RestDeployment.Deployment

variable {config : Config} {m : Manifest} {u : UnitManifest} {web : WebDescriptor}
  {found : Metadata} {name n p : String} {r : Report} {schedules : Schedules}

/-! ### Superclasses that the inspection sees -/

/-- Where the inspection of a unit looks superclasses up. -/
abbrev hierarchyOfUnit (config : Config) (m : Manifest) (u : UnitManifest) : Hierarchy :=
  hierarchyOf (indexesOf (m.build config)) (u.build config)

theorem seesApplication_iff_reaches :
    SeesApplication config m u n ↔ (hierarchyOfUnit config m u).Reaches n applicationClass :=
  Hierarchy.descends_iff

/-- A class of the own index counts before those of the dependencies. -/
theorem class?_hierarchyOfUnit {c : ClassEntry} (hclass : u.table.class? n = some c) :
    (hierarchyOfUnit config m u).class? n = some c := by
  have hown : (u.build config).index.classes.get? n = some c := hclass
  simp only [hierarchyOf, Hierarchy.class?, List.findSome?_cons, hown]

theorem extends_hierarchyOfUnit (h : u.table.Extends n p) :
    (hierarchyOfUnit config m u).Extends n p := by
  obtain ⟨c, hclass, hsuper⟩ := h
  exact ⟨c, class?_hierarchyOfUnit hclass, hsuper⟩

theorem reaches_hierarchyOfUnit (h : Relation.ReflTransGen u.table.Extends n p) :
    (hierarchyOfUnit config m u).Reaches n p :=
  h.lift id fun _ _ => extends_hierarchyOfUnit

/-- The superclasses of a class lead out of the unit's index, to another class than the
application class that is an application by the index of a dependency. -/
def Borrows (config : Config) (m : Manifest) (u : UnitManifest) (n : String) : Prop :=
  ∃ p, Relation.ReflTransGen u.table.Extends n p ∧ u.table.class? p = none ∧
    p ≠ applicationClass ∧ SeesApplication config m u p

/-- **What the inspection takes for an application**: the application class itself, classes
that extend it by the own index, and classes that extend an application of a dependency. -/
theorem seesApplication_iff :
    SeesApplication config m u n ↔
      n = applicationClass ∨ u.table.Inherits n applicationClass ∨ Borrows config m u n := by
  constructor
  · -- along the chain of superclasses, up to the first class without entry of its own
    intro hsees
    rw [seesApplication_iff_reaches] at hsees
    induction hsees using Relation.ReflTransGen.head_induction_on with
    | refl => exact .inl rfl
    | @head n q hstep hreach ih =>
        cases hclass : u.table.class? n with
        | none =>
            by_cases hn : n = applicationClass
            · exact .inl hn
            · exact .inr (.inr ⟨n, .refl, hclass, hn,
                seesApplication_iff_reaches.mpr (.head hstep hreach)⟩)
        | some c =>
            have hown : u.table.Extends n q :=
              ⟨c, hclass, (Hierarchy.extends_iff (class?_hierarchyOfUnit hclass)).mp hstep⟩
            rcases ih with rfl | hinherits | ⟨p, hchain, hforeign, hp, happlication⟩
            · exact .inr (.inl (.single hown))
            · exact .inr (.inl (.head hown hinherits))
            · exact .inr (.inr ⟨p, .head hown hchain, hforeign, hp, happlication⟩)
  · rw [seesApplication_iff_reaches]
    rintro (rfl | hinherits | ⟨p, hchain, -, -, happlication⟩)
    · exact .refl
    · exact reaches_hierarchyOfUnit hinherits.to_reflTransGen
    · rw [seesApplication_iff_reaches] at happlication
      exact (reaches_hierarchyOfUnit hchain).trans happlication

/-! ### Applications that the classification finds -/

/-- A class of the unit's own index that can be instantiated and has a path or is mapped. -/
structure Eligible (u : UnitManifest) (web : WebDescriptor) (n : String) (c : ClassEntry) :
    Prop where
  own : u.table.class? n = some c
  concrete : c.isAbstract = false
  counts : (c.annotation? applicationPathAnnotation).isSome = true ∨ web.isMapped n = true

theorem Eligible.name_eq {c : ClassEntry} (h : Eligible u web n c) : c.name = n :=
  ClassTable.keyed_ofList u.classes n c h.own

/-- An inspection leaves the mappings alone, so an eligible class is kept by the scan. -/
theorem Eligible.kept {c : ClassEntry} (h : Eligible u web n c) (hweb : u.descriptor = some web) :
    Classification.Kept (inspectedDescriptor config (indexesOf (m.build config)) (u.build config))
      c (.ofEntry c) := by
  have hbuilt : (u.build config).descriptor = some web := hweb
  obtain ⟨servlets, hstate, -⟩ := Adoption.adopt_state config
    (hierarchyOfUnit config m u) (u.build config).loader web
  have hcounts : (Application.ofEntry c).isRegistered { web with servlets := servlets } = true := by
    rcases h.counts with hpath | hmapped
    · simp [Application.isRegistered, Application.isAnnotated, Application.ofEntry, hpath]
    · have hname : (Application.ofEntry c).name = n := h.name_eq
      rw [Application.isRegistered, hname]
      exact Bool.or_eq_true_iff.mpr (.inr hmapped)
  refine ⟨h.concrete, rfl, ?_⟩
  rw [inspectedDescriptor, hbuilt, Option.map_some, hstate]
  exact hcounts

/-- A scan that looks for applications finds the eligible classes that extend the application
class by the own index. -/
theorem mem_keys_survey_iff_inherits {c : ClassEntry} (heligible : Eligible u web n c)
    (hweb : u.descriptor = some web) (hfound : (surveyOf config m u).metadata = .ok found)
    (hscans : found.policy.scans = true) (hcreated : found.dispatcherCreated = false) :
    n ∈ found.applications.keys ↔ u.table.Inherits n applicationClass := by
  have hsubtypes : ∀ c, c ∈ (u.build config).index.subtypes applicationClass ↔
      u.table.class? c.name = some c ∧ u.table.Inherits c.name applicationClass := fun c =>
    ClassTable.mem_subtypes_iff (ClassTable.keyed_ofList u.classes)
      (ClassTable.linked_ofList u.classes)
  rw [NameMap.mem_keys, Option.isSome_iff_exists]
  constructor
  · rintro ⟨a, ha⟩
    obtain ⟨-, -, c', hc', hname, -⟩ := (get?_applications_survey hfound).mp ha
    rw [hsubtypes, hname] at hc'
    exact hc'.2
  · intro hinherits
    have hmem : c ∈ (u.build config).index.subtypes applicationClass := by
      rw [hsubtypes, heligible.name_eq]
      exact ⟨heligible.own, hinherits⟩
    exact ⟨_, (get?_applications_survey hfound).mpr
      ⟨hscans, hcreated, c, hmem, heligible.name_eq, heligible.kept hweb⟩⟩

/-! ### Whole deployments -/

/-- **What a unit has for applications and what its inspection takes for them.**  In a full
deployment that ends well, a web application that is scanned and has adopted no servlet has
those eligible classes for applications that extend the application class by its own index,
and those that it inherits.  The inspection also takes those for applications that extend an
application of a dependency. -/
theorem applications_iff_inherits (config : Config) (h : schedules.Complete (m.build config).length)
    (hr : (runAlong config .full schedules { name := name } (m.build config)).result = .ok r)
    (hu : u ∈ m.units) (hweb : u.descriptor = some web) :
    ∃ x, r.unit? u.id = some x ∧
      (x.metadata.policy.scans = true → x.metadata.dispatcherCreated = false →
        ∀ n c, Eligible u web n c →
          (n ∈ x.metadata.applications.keys ↔
            u.table.Inherits n applicationClass ∨
              OfInherited m u fun v => n ∈ (surveyOf config m v).found.applications.keys) ∧
          (SeesApplication config m u n ↔
            n = applicationClass ∨ u.table.Inherits n applicationClass ∨
              Borrows config m u n)) := by
  rw [runAlong_result h] at hr
  obtain ⟨hids, hscan, -⟩ := eq_reports_of_resultOf hr
  rw [ids_build] at hids
  have hmem : u.build config ∈ m.build config := List.mem_map_of_mem hu
  obtain ⟨found, hfound⟩ := hscan _ hmem
  refine ⟨_, unit?_of_resultOf hr hmem, fun hscans hcreated n c heligible => ?_⟩
  have hflags : (reportedState config .full (m.build config) (u.build config)).metadata.SameFlags
      found := Survey.found_of_ok hfound ▸ sameFlags_reportedState
  have hclasses := sameClasses_reportedState config .full (m.build config) (u.build config)
  have hown := mem_keys_survey_iff_inherits heligible hweb hfound
    (hflags.policy ▸ hscans) (hflags.dispatcherCreated ▸ hcreated)
  refine ⟨?_, seesApplication_iff⟩
  rw [← hown, ← mem_keys_classesOfUnit hids hu hscan hfound, ← hclasses.applications]
  rfl

/-- A web application with an application of its own and one that extends the base class of
a library. -/
def borrowedBase : Manifest where
  deployment := "shop"
  units :=
    [{ id := "lib"
       classes := [{ plainClass "lib.BaseApp" [] (some applicationClass) with
         modifiers := [.publicAccess, .abstract] }] },
      { id := "web", dependencies := ["lib"]
        classes := [withPath "OwnApp" applicationClass, withPath "ShopApp" "lib.BaseApp"]
        descriptor := some {} }]
where
  withPath (name superName : String) : ClassEntry :=
    { plainClass name [] (some superName) with
      annotations := [⟨ applicationPathAnnotation, some "/shop"⟩] }

/-- The unit has its own application, and the inspection takes both for applications. -/
theorem applications_iff_inherits_borrowedBase :
    ∃ r x, (runFresh {} .full "shop" (borrowedBase.build {})).result = .ok r ∧
      r.unit? "web" = some x ∧ "OwnApp" ∈ x.metadata.applications.keys ∧
      ∃ u ∈ borrowedBase.units, u.id = "web" ∧ SeesApplication {} borrowedBase u "OwnApp" ∧
        SeesApplication {} borrowedBase u "ShopApp" := by
  obtain ⟨r, x, hr, hx, hcheck⟩ := exists_unit?_of_any
    (runFresh {} .full "shop" (borrowedBase.build {})).result "web"
    (fun x => x.metadata.policy.scans && !x.metadata.dispatcherCreated) (by decide +kernel)
  have hmem : borrowedBase.units[1] ∈ borrowedBase.units := List.getElem_mem _
  obtain ⟨y, hy, hall⟩ := applications_iff_inherits {} (complete_inOrder _) hr hmem rfl
  obtain rfl : x = y := Option.some.inj (hx.symm.trans hy)
  obtain ⟨hscans, hcreated⟩ := Bool.and_eq_true_iff.mp hcheck
  rw [Bool.not_eq_true'] at hcreated
  obtain ⟨hkeys, hsees⟩ := hall hscans hcreated "OwnApp" _ ⟨rfl, rfl, .inl rfl⟩
  obtain ⟨-, hborrows⟩ := hall hscans hcreated "ShopApp" _ ⟨rfl, rfl, .inl rfl⟩
  have hown : borrowedBase.units[1].table.Inherits "OwnApp" applicationClass :=
    .single ⟨_, rfl, rfl⟩
  refine ⟨r, x, hr, hx, hkeys.mpr (.inl hown), _, hmem, rfl, hsees.mpr (.inr (.inl hown)),
    hborrows.mpr (.inr (.inr ⟨"lib.BaseApp", .single ⟨_, rfl, rfl⟩, rfl, by decide, ?_⟩))⟩
  exact seesApplication_iff_reaches.mpr (.single ⟨_, rfl, rfl⟩)

/-- **Inspection and classification do not agree on what an application is.**  A web
application that is scanned and has adopted no servlet does not have an eligible class of its
own for an application that its inspection takes for one. -/
theorem not_agree_on_applications :
    ∃ r x, (runFresh {} .full "shop" (borrowedBase.build {})).result = .ok r ∧
      r.unit? "web" = some x ∧ x.metadata.policy.scans = true ∧
      x.metadata.hasBootClasses = false ∧ x.metadata.dispatcherCreated = false ∧
      (∃ u ∈ borrowedBase.units, u.id = "web" ∧ SeesApplication {} borrowedBase u "ShopApp" ∧
        ∃ web c, u.descriptor = some web ∧ Eligible u web "ShopApp" c) ∧
      "ShopApp" ∉ x.metadata.applications.keys := by
  obtain ⟨r, x, hr, hx, hcheck⟩ := exists_unit?_of_any
    (runFresh {} .full "shop" (borrowedBase.build {})).result "web"
    (fun x => decide (x.metadata.policy.scans = true ∧ x.metadata.hasBootClasses = false ∧
      x.metadata.dispatcherCreated = false ∧ "ShopApp" ∉ x.metadata.applications.keys))
    (by decide +kernel)
  obtain ⟨hscans, hboot, hcreated, hmissing⟩ := of_decide_eq_true hcheck
  have hsees : SeesApplication {} borrowedBase borrowedBase.units[1] "ShopApp" := by
    unfold SeesApplication
    decide +kernel
  exact ⟨r, x, hr, hx, hscans, hboot, hcreated,
    ⟨borrowedBase.units[1], List.getElem_mem _, rfl, hsees, {}, _, rfl, rfl, rfl, .inl rfl⟩,
    hmissing⟩

end RestDeployment.Deployment
