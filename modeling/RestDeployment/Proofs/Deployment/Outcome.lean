import RestDeployment.Proofs.Deployment.Steps

/-!
# The outcome of a deployment, without schedules

`runAlong` runs a deployment along schedules.  When these are complete, that is
when every phase visits every unit once, its result is `resultOf`, a definition in
which no schedule occurs (`runAlong_result`).

A schedule enters in two places only: the steps of a deployment are `Isolated`, so a
phase along any complete schedule leads to `World.advance`, and the failure that is
reported is looked for in the order of submission.  `resultOf_eq_ok_iff` says when
the result is a report, and what it holds.
-/

namespace RestDeployment.Deployment

variable {config : Config} {extent : Extent} {session : Session} {units : List BuildUnit}

/-! ### Looking things up by id -/

section Ids

variable {α : Type} {f : α → String} {l : List α}

/-- With distinct ids, looking up the id of a member finds the member. -/
theorem find?_of_mem (hids : (l.map f).Nodup) {a : α} (ha : a ∈ l) :
    l.find? (fun b => f b == f a) = some a := by
  cases hfind : l.find? (fun b => f b == f a) with
  | none => exact absurd (List.find?_eq_none.mp hfind a ha) (by simp)
  | some b =>
      have hb : f b = f a := by simpa using List.find?_some hfind
      rw [List.inj_on_of_nodup_map hids (List.mem_of_find?_eq_some hfind) ha hb]

/-- With distinct ids, what is found does not depend on the order of the list. -/
theorem find?_perm (hids : (l.map f).Nodup) {l' : List α} (hperm : l.Perm l') (x : String) :
    l.find? (fun a => f a == x) = l'.find? (fun a => f a == x) := by
  cases hfind : l'.find? (fun a => f a == x) with
  | none =>
      rw [List.find?_eq_none] at hfind ⊢
      exact fun a ha => hfind a (hperm.mem_iff.mp ha)
  | some a =>
      have ha : a ∈ l := hperm.mem_iff.mpr (List.mem_of_find?_eq_some hfind)
      have hx : f a = x := by simpa using List.find?_some hfind
      rw [← hx]
      exact find?_of_mem hids ha

end Ids

theorem World.Distinct.find?_of_mem {w : World} (hids : w.Distinct) {u : UnitState}
    (hu : u ∈ w.units) : w.units.find? (fun v => v.unit.id == u.unit.id) = some u :=
  Deployment.find?_of_mem (f := fun u : UnitState => u.unit.id) hids hu

theorem World.Distinct.find?_perm {w : World} (hids : w.Distinct) {us : List UnitState}
    (hperm : w.units.Perm us) (x : String) :
    w.units.find? (fun u => u.unit.id == x) = us.find? (fun u => u.unit.id == x) :=
  Deployment.find?_perm (f := fun u : UnitState => u.unit.id) hids hperm x

/-! ### Complete schedules -/

/-- Every phase visits each of `n` units once. -/
structure Schedules.Complete (schedules : Schedules) (n : Nat) : Prop where
  scanning : schedules.scanning.Perm (List.range n)
  merging : schedules.merging.Perm (List.range n)
  registering : schedules.registering.Perm (List.range n)

theorem complete_inOrder (units : List BuildUnit) : (inOrder units).Complete units.length :=
  ⟨List.Perm.refl _, List.Perm.refl _, List.Perm.refl _⟩

/-- The steps of a deployment. -/
def stepsTo (config : Config) (units : List BuildUnit) : Extent → List UnitStep
  | .scanOnly => [scan config (indexesOf units)]
  | .full => [scan config (indexesOf units), merge, synthesize config]

/-- What holds of each kind of step holds of the steps of a deployment. -/
theorem of_mem_stepsTo {P : UnitStep → Prop} (hscan : P (scan config (indexesOf units)))
    (hmerge : P merge) (hsynthesize : P (synthesize config)) {step : UnitStep}
    (h : step ∈ stepsTo config units extent) : P step := by
  cases extent with
  | scanOnly =>
      rcases List.mem_singleton.mp h with rfl
      exact hscan
  | full =>
      simp only [stepsTo, List.mem_cons, List.not_mem_nil, or_false] at h
      rcases h with rfl | rfl | rfl
      · exact hscan
      · exact hmerge
      · exact hsynthesize

theorem isolated_of_mem_stepsTo {step : UnitStep} (h : step ∈ stepsTo config units extent) :
    Isolated step :=
  of_mem_stepsTo (isolated_scan config _) isolated_merge (isolated_synthesize config) h

theorem map_fst_stepsOf (schedules : Schedules) :
    (stepsOf config units schedules extent).map Prod.fst = stepsTo config units extent := by
  cases extent <;> rfl

theorem perm_of_mem_stepsOf {schedules : Schedules} {n : Nat} (h : schedules.Complete n)
    {phase : UnitStep × List Nat} (hphase : phase ∈ stepsOf config units schedules extent) :
    phase.2.Perm (List.range n) := by
  cases extent with
  | scanOnly =>
      rcases List.mem_singleton.mp hphase with rfl
      exact h.scanning
  | full =>
      simp only [stepsOf, List.mem_cons, List.not_mem_nil, or_false] at hphase
      rcases hphase with rfl | rfl | rfl
      · exact h.scanning
      · exact h.merging
      · exact h.registering

/-! ### The result -/

private theorem repeatedId?_seen {seen ids : List String} :
    repeatedId? seen ids = none ↔ ids.Nodup ∧ ∀ id ∈ ids, id ∉ seen := by
  induction ids generalizing seen with
  | nil => simp [repeatedId?]
  | cons id ids ih =>
      by_cases h : id ∈ seen
      · simp [repeatedId?, h]
      · rw [repeatedId?, if_neg h, ih, List.nodup_cons]
        constructor
        · rintro ⟨hnodup, hseen⟩
          refine ⟨⟨fun hid => hseen id hid (by simp), hnodup⟩, fun a ha => ?_⟩
          rcases List.mem_cons.mp ha with rfl | ha
          · exact h
          · exact fun hmem => hseen a ha (List.mem_cons_of_mem _ hmem)
        · rintro ⟨⟨hid, hnodup⟩, hseen⟩
          refine ⟨hnodup, fun a ha hmem => ?_⟩
          rcases List.mem_cons.mp hmem with rfl | hmem
          · exact hid ha
          · exact hseen a (List.mem_cons_of_mem _ ha) hmem

theorem repeatedId?_eq_none_iff {ids : List String} : repeatedId? [] ids = none ↔ ids.Nodup := by
  rw [repeatedId?_seen]
  simp

/-- The world in which a deployment begins. -/
def World.start (session : Session) (units : List BuildUnit) : World :=
  ⟨units.map UnitState.ofUnit, session⟩

theorem distinct_start (session : Session) (hids : (units.map (·.id)).Nodup) :
    (World.start session units).Distinct := by
  unfold World.Distinct World.start
  rw [List.map_map]
  exact hids

/-- The world in which a deployment ends. -/
def outcome (config : Config) (extent : Extent) (session : Session) (units : List BuildUnit) :
    World :=
  (World.start session units).through (stepsTo config units extent)

/-- The result of a deployment. -/
def resultOf (config : Config) (extent : Extent) (session : Session) (units : List BuildUnit) :
    Except Failure Report :=
  if session.closed then .error ⟨.illegalState (.sessionClosed session.name), none⟩
  else
    match repeatedId? [] (units.map (·.id)) with
    | some id => .error ⟨.illegalState (.duplicateUnit id), none⟩
    | none =>
      match (outcome config extent session units).failure? with
      | some failure => .error failure
      | none =>
        .ok ⟨(outcome config extent session units).session.name,
          (outcome config extent session units).units.map UnitReport.ofState⟩

/-- **The result does not depend on the schedules.** -/
theorem runAlong_result {schedules : Schedules} (h : schedules.Complete units.length) :
    (runAlong config extent schedules session units).result =
      resultOf config extent session units := by
  unfold runAlong resultOf
  split
  · rfl
  · unfold runPhases
    cases hrepeated : repeatedId? [] (units.map (·.id)) with
    | some id => rfl
    | none =>
        -- with distinct ids the phases can be followed without their schedules
        have hids := distinct_start session (repeatedId?_eq_none_iff.mp hrepeated)
        have hlength : (World.start session units).units.length = units.length :=
          List.length_map _
        have hvalue : (runSteps (stepsOf config units schedules extent)
            (World.start session units)).value = outcome config extent session units := by
          rw [runSteps_value hids, map_fst_stepsOf, outcome]
          intro phase hphase
          have hstep : phase.1 ∈ stepsTo config units extent := by
            rw [← map_fst_stepsOf schedules]
            exact List.mem_map_of_mem hphase
          rw [hlength]
          exact ⟨isolated_of_mem_stepsTo hstep, perm_of_mem_stepsOf h hphase⟩
        simp only [World.start] at hvalue
        simp only [hvalue]
        cases (outcome config extent session units).failure? <;> rfl

/-! ### Reports -/

theorem ids_outcome (config : Config) (extent : Extent) (session : Session)
    (units : List BuildUnit) :
    (outcome config extent session units).units.map (·.unit.id) = units.map (·.id) := by
  unfold outcome
  rw [World.ids_through fun step h => isolated_of_mem_stepsTo h]
  simp [World.start, UnitState.ofUnit]

theorem distinct_outcome (hids : (units.map (·.id)).Nodup) :
    (outcome config extent session units).Distinct := by
  unfold World.Distinct
  rw [ids_outcome]
  exact hids

theorem unit?_map_ofState (name : String) (us : List UnitState) (id : String) :
    Report.unit? ⟨name, us.map UnitReport.ofState⟩ id =
      (us.find? fun u => u.unit.id == id).map UnitReport.ofState := by
  simp only [Report.unit?, List.find?_map]
  rfl

/-! ### Deployments that end well -/

theorem World.failure?_eq_none_iff {w : World} :
    w.failure? = none ↔ ∀ u ∈ w.units, u.fault = none := by
  simp [World.failure?, List.findSome?_eq_none_iff]

theorem World.exists_of_failure? {w : World} {failure : Failure} (h : w.failure? = some failure) :
    ∃ x ∈ w.units, x.fault = some failure.fault ∧ failure.unit = some x.unit.id := by
  obtain ⟨x, hx, hfound⟩ := List.exists_of_findSome?_eq_some h
  obtain ⟨fault, hfault, rfl⟩ := Option.map_eq_some_iff.mp hfound
  exact ⟨x, hx, hfault, rfl⟩

theorem resultOf_eq_ok_iff {r : Report} :
    resultOf config extent session units = .ok r ↔
      session.closed = false ∧ (units.map (·.id)).Nodup ∧
        (outcome config extent session units).failure? = none ∧
        r = ⟨(outcome config extent session units).session.name,
          (outcome config extent session units).units.map UnitReport.ofState⟩ := by
  unfold resultOf
  cases hclosed : session.closed with
  | true => simp
  | false =>
      cases hrepeated : repeatedId? [] (units.map (·.id)) with
      | some id =>
          have hids : ¬ (units.map (·.id)).Nodup := by
            rw [← repeatedId?_eq_none_iff, hrepeated]
            simp
          simp [hids]
      | none =>
          have hids := repeatedId?_eq_none_iff.mp hrepeated
          cases hfailure : (outcome config extent session units).failure? with
          | some failure => simp
          | none => simp [hids, eq_comm]

/-- With distinct ids, an open session is left only by a failing unit. -/
theorem resultOf_eq_error_iff {failure : Failure} (hopen : session.closed = false)
    (hids : (units.map (·.id)).Nodup) :
    resultOf config extent session units = .error failure ↔
      (outcome config extent session units).failure? = some failure := by
  have hrepeated : repeatedId? [] (units.map (·.id)) = none := repeatedId?_eq_none_iff.mpr hids
  cases hfailure : (outcome config extent session units).failure? with
  | none => simp [resultOf, hopen, hrepeated, hfailure]
  | some first => simp [resultOf, hopen, hrepeated, hfailure]

/-! ### Results that are computed -/

/-- A class with annotations and a superclass, and nothing else. -/
def plainClass (name : String) (annotations : List String) (superName : Option String) :
    ClassEntry where
  name := name
  kind := .ordinary
  modifiers := []
  superName := superName
  interfaces := []
  annotations := annotations.map fun marker => ⟨marker, none⟩
  methods := []
  fields := []

/-- A check on the report on a unit, made by computation. -/
theorem exists_unit?_of_any (result : Except Failure Report) (id : String) (p : UnitReport → Bool)
    (h : (result.toOption.bind fun r => r.unit? id).any p = true) :
    ∃ r x, result = .ok r ∧ r.unit? id = some x ∧ p x = true := by
  cases result with
  | error failure => simp [Except.toOption] at h
  | ok r =>
      cases hx : r.unit? id with
      | none => simp [Except.toOption, hx] at h
      | some x => exact ⟨r, x, rfl, hx, by simpa [Except.toOption, hx] using h⟩

end RestDeployment.Deployment
