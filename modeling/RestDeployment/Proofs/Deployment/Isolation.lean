import Mathlib.Logic.Relation
import RestDeployment.Proofs.Deployment.Classes

/-!
# Units that have nothing to do with each other

What is reported about a unit depends on the units that can be reached from it by
following dependencies, and on no others.  Two deployments that agree on those units
report the same about it, whatever else is deployed (`report_eq_of_agreeFrom`).

## Strategy

A scan of a unit looks at other units through `hierarchyOf` only, so it sees the indexes
of the dependencies (`survey_congr`).  A merge looks the dependencies up in `published`
(`Metadata.mergeAll_congr`), that is, it sees their scans, and these see the indexes of the
dependencies of dependencies.  Both steps go along dependencies, and agreement is
inherited along dependencies (`AgreeFrom.of_dependsOn`).
-/

namespace RestDeployment.Deployment

variable {config : Config} {extent : Extent} {indexes indexes' : Indexes}
  {units units' : List BuildUnit} {u : BuildUnit} {id a b : String} {r r' : Report}

/-! ### Following dependencies -/

/-- The unit that an id names. -/
def unitNamed (units : List BuildUnit) (id : String) : Option BuildUnit :=
  units.find? fun u => u.id == id

theorem unitNamed_of_mem (hids : (units.map (·.id)).Nodup) (hu : u ∈ units) :
    unitNamed units u.id = some u :=
  find?_of_mem (f := BuildUnit.id) hids hu

theorem unitNamed_build (config : Config) (m : Manifest) (id : String) :
    unitNamed (m.build config) id =
      (m.units.find? fun u => u.id == id).map (UnitManifest.build config) := by
  rw [unitNamed, Manifest.build, List.find?_map]
  rfl

/-- The unit that `a` names has `b` among its dependencies. -/
def DependsOn (units : List BuildUnit) (a b : String) : Prop :=
  ∃ v, unitNamed units a = some v ∧ b ∈ v.dependencies

/-- Dependencies lead from one id to another, in any number of steps. -/
abbrev Reaches (units : List BuildUnit) : String → String → Prop :=
  Relation.ReflTransGen (DependsOn units)

/-- Every id that can be reached, the first included, names the same unit in both lists or
no unit in either. -/
def AgreeFrom (units units' : List BuildUnit) (id : String) : Prop :=
  ∀ b, Reaches units id b → unitNamed units b = unitNamed units' b

theorem AgreeFrom.unitNamed_eq (h : AgreeFrom units units' id) :
    unitNamed units id = unitNamed units' id :=
  h id Relation.ReflTransGen.refl

theorem AgreeFrom.of_dependsOn (h : AgreeFrom units units' a) (hab : DependsOn units a b) :
    AgreeFrom units units' b := by
  intro c hbc
  exact h c (Relation.ReflTransGen.head hab hbc)

/-- It is enough to compare the lists on some ids that dependencies do not lead out of. -/
theorem AgreeFrom.of_closed (ids : List String) (hid : id ∈ ids)
    (hclosed : ∀ a ∈ ids, ∀ v ∈ unitNamed units a, ∀ b ∈ v.dependencies, b ∈ ids)
    (hsame : ∀ a ∈ ids, unitNamed units a = unitNamed units' a) : AgreeFrom units units' id := by
  intro b hb
  refine hsame b ?_
  induction hb with
  | refl => exact hid
  | tail _ hstep ih =>
      obtain ⟨v, hv, hd⟩ := hstep
      exact hclosed _ ih v hv _ hd

/-! ### Scans -/

theorem hierarchyOf_congr (h : ∀ d ∈ u.dependencies, indexes d = indexes' d) :
    hierarchyOf indexes u = hierarchyOf indexes' u := by
  rw [hierarchyOf, hierarchyOf, List.filterMap_congr h]

/-- A scan sees the indexes of the dependencies and no others. -/
theorem prepare_congr (h : ∀ d ∈ u.dependencies, indexes d = indexes' d) :
    prepare config indexes u = prepare config indexes' u := by
  simp only [prepare, hierarchyOf_congr h]

theorem survey_congr (h : ∀ d ∈ u.dependencies, indexes d = indexes' d) :
    survey config indexes u = survey config indexes' u := by
  simp only [survey, classified, prepare_congr h]

theorem scan_congr {x : UnitState} {s : Session}
    (h : ∀ d ∈ x.unit.dependencies, indexes d = indexes' d) :
    scan config indexes ⟨x, s⟩ = scan config indexes' ⟨x, s⟩ := by
  simp only [scan, requiring, prepare_congr h]

/-- A scan is the same in lists that agree on the dependencies. -/
theorem survey_of_agreeFrom (h : AgreeFrom units units' u.id)
    (hu : unitNamed units u.id = some u) :
    survey config (indexesOf units) u = survey config (indexesOf units') u := by
  refine survey_congr fun d hd => ?_
  have hsame : unitNamed units d = unitNamed units' d :=
    (h.of_dependsOn ⟨u, hu, hd⟩).unitNamed_eq
  exact congrArg (Option.map fun v => v.index) hsame

/-- What an id publishes depends on what can be reached from it. -/
theorem published_of_agreeFrom (h : AgreeFrom units units' id) :
    published config units id = published config units' id := by
  have hsame : units.find? (fun v => v.id == id) = units'.find? (fun v => v.id == id) :=
    h.unitNamed_eq
  rw [published, published, ← hsame]
  cases hv : units.find? fun v => v.id == id with
  | none => rw [Option.bind_none, Option.bind_none]
  | some v =>
      have hid : v.id = id := by simpa using List.find?_some hv
      subst hid
      rw [Option.bind_some, Option.bind_some, survey_of_agreeFrom h hv]

/-! ### Whole deployments -/

section Agree

variable (h : AgreeFrom units units' u.id) (hu : unitNamed units u.id = some u)

include h hu

theorem scannedState_of_agreeFrom :
    scannedState config units u = scannedState config units' u := by
  simp only [scannedState, survey_of_agreeFrom h hu]

/-- What a unit inherits was published by its dependencies, which see no more than can be
reached from the unit. -/
theorem inheritedState_of_agreeFrom :
    inheritedState config units u = inheritedState config units' u := by
  have hunit : (scannedState config units' u).unit.dependencies = u.dependencies := by
    rw [scannedState, survey_unit]
  have hlookup : ∀ d ∈ (scannedState config units' u).unit.dependencies,
      published config units d = published config units' d := by
    intro d hd
    rw [hunit] at hd
    exact published_of_agreeFrom (h.of_dependsOn ⟨u, hu, hd⟩)
  simp only [inheritedState, inheriting, scannedState_of_agreeFrom h hu,
    Metadata.mergeAll_congr hlookup]

theorem reportedState_of_agreeFrom (extent : Extent) :
    reportedState config extent units u = reportedState config extent units' u := by
  cases extent with
  | scanOnly => exact scannedState_of_agreeFrom h hu
  | full => simp only [reportedState, finalState, inheritedState_of_agreeFrom h hu]

end Agree

/-- **Units are isolated from each other.**  Two deployments in fresh sessions that end well
and agree on all ids that dependencies lead to from a unit report the same about the unit. -/
theorem report_eq_of_agreeFrom (config : Config) (extent : Extent) {name name' : String}
    {schedules schedules' : Schedules} (hs : schedules.Complete units.length)
    (hs' : schedules'.Complete units'.length)
    (hr : (runAlong config extent schedules { name := name } units).result = .ok r)
    (hr' : (runAlong config extent schedules' { name := name' } units').result = .ok r')
    (hu : u ∈ units) (hagree : AgreeFrom units units' u.id) :
    ∃ x, r.unit? u.id = some x ∧ r'.unit? u.id = some x := by
  rw [runAlong_result hs] at hr
  rw [runAlong_result hs'] at hr'
  obtain ⟨hids, -, -⟩ := eq_reports_of_resultOf hr
  have hnamed : unitNamed units u.id = some u := unitNamed_of_mem hids hu
  have hu' : u ∈ units' := by
    rw [hagree.unitNamed_eq] at hnamed
    exact List.mem_of_find?_eq_some hnamed
  refine ⟨_, unit?_of_resultOf hr hu, ?_⟩
  rw [unit?_of_resultOf hr' hu', reportedState_of_agreeFrom hagree hnamed]

/-- A web application that depends on another, which declares a servlet for a class that is an
application because of a library that only the second one depends on, among other units. -/
def shopAmong (before after : List UnitManifest) : Manifest where
  deployment := "shop"
  units := before ++
    [{ id := "shop", parent := some "ear", dependencies := ["admin", "gone"],
       descriptor := some {} },
      { id := "admin", dependencies := ["base"],
        classes :=
          [plainClass "AdminApp" [] (some "BaseApp"), plainClass "Users" [ pathAnnotation] none,
            { plainClass "Tools" [] (some applicationClass) with
              annotations := [⟨ applicationPathAnnotation, some "/tools"⟩] }],
        descriptor := some { servlets := [{ name := "admin", servletClass := some "AdminApp" }] } },
      { id := "base", classes := [plainClass "BaseApp" [] (some applicationClass)] }] ++ after

/-- Units that the shop does not depend on: one with classes of the same names, one that
depends on the shop. -/
def neighbours : List UnitManifest :=
  [{ id := "copy", dependencies := ["base", "copy"], classes := [plainClass "BaseApp" [] none] },
    { id := "ear", parent := some "ear", dependencies := ["shop"],
      classes := [plainClass "Users" [ providerAnnotation] none], descriptor := some {} }]

/-- Alone and among neighbours, the same is reported about the shop. -/
theorem report_eq_of_agreeFrom_shopAmong :
    ∃ r r' x, (runFresh {} .full "alone" ((shopAmong [] []).build {})).result = .ok r ∧
      (runFresh {} .full "among" ((shopAmong neighbours [{ id := "last" }]).build {})).result =
        .ok r' ∧
      r.unit? "shop" = some x ∧ r'.unit? "shop" = some x ∧
      "Users" ∈ x.metadata.resources ∧ x.metadata.applications = ∅ ∧
      x.merge.map (·.missing) = some ["gone"] := by
  obtain ⟨r, x, hr, hx, hcheck⟩ := exists_unit?_of_any
    (runFresh {} .full "alone" ((shopAmong [] []).build {})).result "shop"
    (fun x => decide ("Users" ∈ x.metadata.resources ∧ x.metadata.applications = ∅ ∧
      x.merge.map (·.missing) = some ["gone"])) (by decide +kernel)
  obtain ⟨r', -, hr', -, -⟩ := exists_unit?_of_any
    (runFresh {} .full "among" ((shopAmong neighbours [{ id := "last" }]).build {})).result "ear"
    (fun _ => true) (by decide +kernel)
  have hagree : AgreeFrom ((shopAmong [] []).build {})
      ((shopAmong neighbours [{ id := "last" }]).build {}) "shop" := by
    have hsame : ∀ a ∈ ["shop", "admin", "base", "gone"],
        (shopAmong [] []).units.find? (fun u => u.id == a) =
          (shopAmong neighbours [{ id := "last" }]).units.find? (fun u => u.id == a) := by
      decide +kernel
    refine AgreeFrom.of_closed ["shop", "admin", "base", "gone"] List.mem_cons_self
      (by decide +kernel) fun a ha => ?_
    rw [unitNamed_build, unitNamed_build, hsame a ha]
  obtain ⟨y, hy, hy'⟩ := report_eq_of_agreeFrom {} .full (complete_inOrder _)
    (complete_inOrder _) hr hr' (List.mem_cons_self) hagree
  obtain rfl : x = y := Option.some.inj (hx.symm.trans hy)
  exact ⟨r, r', x, hr, hr', hx, hy', by simpa using hcheck⟩

end RestDeployment.Deployment
