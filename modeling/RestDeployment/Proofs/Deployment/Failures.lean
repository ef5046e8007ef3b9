import RestDeployment.Manifest
import RestDeployment.Proofs.Deployment.Isolation

/-!
# Which failure a deployment reports

In a phase all units take their step, also when some of them are stopped.  The failure that
is reported is still that of a single unit: of the phases that stop a unit it is the first,
and of the units that this phase stops it is the earliest in the order of submission
(`reported_failure_is_first`).

## Strategy

* No step gives a unit a fault and lets it pass (`KeepsFault`), so after a phase the units
  with a fault are those that its step stopped, if there were none before
  (`fault_unitAfter_eq_none_iff`).
* `FirstStopped` says without the run which unit is the earliest that a step stops, each
  unit being asked alone, in the session that the phase begins with.  It mentions the units
  up to the one that is stopped and none behind it, so what stands behind it in the list
  does not matter (`FirstStopped.of_isPrefix`).
* `FailsAt` goes through the phases up to the first that stops a unit, and
  `failure?_through_eq_some_iff` says that this is what a run does.

Where an id is repeated nothing of this happens, since no unit is looked at
(`repeatedId?_eq_some_iff`).
-/

namespace RestDeployment.Deployment

variable {config : Config} {extent : Extent} {schedules : Schedules} {session s : Session}
  {units units' : List BuildUnit} {step : UnitStep} {steps passed : List UnitStep} {w w' : World}
  {before : List UnitState} {u x : UnitState} {fault : Fault} {failure : Failure}

/-! ### Steps and faults -/

/-- A step that lets a unit pass leaves its fault as it was. -/
def KeepsFault (step : UnitStep) : Prop :=
  ∀ s u, (step ⟨u, s⟩).result = .ok () → (step ⟨u, s⟩).state.unit.fault = u.fault

theorem keepsFault_scan (config : Config) (indexes : Indexes) :
    KeepsFault (scan config indexes) := by
  intro s u hok
  by_cases hphase : u.phase = .notStarted
  · cases hv : (survey config indexes u.unit).metadata with
    | error fault =>
        rw [(scan_of_survey_error hphase hv).1] at hok
        cases hok
    | ok m =>
        obtain ⟨notes, hscan⟩ := scan_of_survey_ok (s := s) hphase hv
        rw [hscan] at hok ⊢
        cases haccepts :
            s.accepts (u.surveyed (survey config indexes u.unit)).unit.id with
        | true =>
            rw [(publishScan_of_accepts m ⟨u.surveyed _, s⟩ notes hphase haccepts).2]
            rfl
        | false =>
            rw [(publishScan_of_not_accepts m ⟨u.surveyed _, s⟩ notes haccepts).1] at hok
            cases hok
  · rw [scan, requiring_of_phase_ne hphase] at hok
    cases hok

theorem keepsFault_merge : KeepsFault merge := by
  intro s u hok
  by_cases hphase : u.phase = .classified
  · rw [(merge_of_phase hphase).2]
    show (inherit s u).value.fault = u.fault
    unfold inherit
    split <;> rfl
  · rw [merge, requiring_of_phase_ne hphase] at hok
    cases hok

theorem keepsFault_synthesize (config : Config) : KeepsFault (synthesize config) := by
  intro s u hok
  by_cases hphase : u.phase = .merged
  · cases hweb : u.unit.descriptor with
    | none => rw [(synthesize_of_library config hphase hweb).2]
    | some web =>
        cases hr : (registrationOf config u web).result with
        | error fault =>
            rw [(synthesize_of_web_error hphase hweb hr).1] at hok
            cases hok
        | ok registration =>
            rw [(synthesize_of_web_ok hphase hweb hr).2]
            rfl
  · rw [synthesize, requiring_of_phase_ne hphase] at hok
    cases hok

theorem keepsFault_of_mem_stepsTo (h : step ∈ stepsTo config units extent) : KeepsFault step :=
  of_mem_stepsTo (keepsFault_scan config _) keepsFault_merge (keepsFault_synthesize config) h

theorem fault_unitAfter_of_error (h : (step ⟨u, s⟩).result = .error fault) :
    (unitAfter step s u).fault = some fault := by
  simp only [unitAfter, h]

theorem fault_unitAfter_of_ok (hstep : KeepsFault step) (h : (step ⟨u, s⟩).result = .ok ()) :
    (unitAfter step s u).fault = u.fault := by
  have hkept := hstep s u h
  simp only [unitAfter, h, hkept]

/-- Where a unit had no fault, it has none after a step exactly if the step let it pass. -/
theorem fault_unitAfter_eq_none_iff (hstep : KeepsFault step) (hfree : u.fault = none) :
    (unitAfter step s u).fault = none ↔ (step ⟨u, s⟩).result = .ok () := by
  cases hresult : (step ⟨u, s⟩).result with
  | error fault => simp [fault_unitAfter_of_error hresult]
  | ok done => simp [fault_unitAfter_of_ok hstep hresult, hfree]

/-! ### The earliest unit that a step stops -/

/-- The earliest unit that a step stops in a world, the units before it and its fault.  Every
unit is asked for itself, in the session of this world. -/
structure FirstStopped (step : UnitStep) (w : World) (before : List UnitState) (x : UnitState)
    (fault : Fault) : Prop where
  submitted : before ++ [x] <+: w.units
  passed : ∀ v ∈ before, (step ⟨v, w.session⟩).result = .ok ()
  stopped : (step ⟨x, w.session⟩).result = .error fault

/-- What stands behind the unit that is stopped does not matter. -/
theorem FirstStopped.of_isPrefix (h : FirstStopped step w before x fault)
    (hsession : w'.session = w.session) (hsubmitted : before ++ [x] <+: w'.units) :
    FirstStopped step w' before x fault := by
  constructor
  · exact hsubmitted
  · intro v hv
    rw [hsession]
    exact h.passed v hv
  · rw [hsession]
    exact h.stopped

/-- After a phase the failure of the earliest unit that was stopped is found. -/
theorem FirstStopped.failure?_advance (h : FirstStopped step w before x fault)
    (hisolated : Isolated step) (hkeeps : KeepsFault step)
    (hfree : ∀ v ∈ before, v.fault = none) :
    (w.advance step).failure? = some ⟨fault, some x.unit.id⟩ := by
  obtain ⟨after, hunits⟩ := h.submitted
  have hfault : (unitAfter step w.session x).fault = some fault :=
    fault_unitAfter_of_error h.stopped
  unfold World.failure? World.advance
  rw [List.findSome?_eq_some_iff]
  refine ⟨before.map (unitAfter step w.session), unitAfter step w.session x,
    after.map (unitAfter step w.session), ?_, ?_, ?_⟩
  · rw [← hunits, List.map_append, List.map_append, List.append_assoc]
    rfl
  · rw [hfault, hisolated.id_eq]
    rfl
  · intro y hy
    obtain ⟨v, hv, rfl⟩ := List.mem_map.mp hy
    rw [(fault_unitAfter_eq_none_iff hkeeps (hfree v hv)).mpr (h.passed v hv)]
    rfl

/-- If no unit had a fault before a phase, the failure that is found after it is that of the
earliest unit that was stopped. -/
theorem failure?_advance_eq_some_iff (hisolated : Isolated step) (hkeeps : KeepsFault step)
    (hfree : ∀ v ∈ w.units, v.fault = none) :
    (w.advance step).failure? = some failure ↔
      ∃ before x fault, FirstStopped step w before x fault ∧
        failure = ⟨fault, some x.unit.id⟩ := by
  constructor
  · intro hfailure
    unfold World.failure? World.advance at hfailure
    obtain ⟨before, y, after, hsplit, hfound, hnone⟩ := List.findSome?_eq_some_iff.mp hfailure
    obtain ⟨us, rest, hunits, rfl, hrest⟩ := List.map_eq_append_iff.mp hsplit
    obtain ⟨x, vs, rfl, rfl, rfl⟩ := List.map_eq_cons_iff.mp hrest
    obtain ⟨fault, hfault, rfl⟩ := Option.map_eq_some_iff.mp hfound
    have hx : x.fault = none := hfree x (by simp [hunits])
    refine ⟨us, x, fault, ⟨⟨vs, by simp [hunits]⟩, ?_, ?_⟩, ?_⟩
    · intro v hv
      have hkept := hnone (unitAfter step w.session v) (List.mem_map_of_mem hv)
      rw [Option.map_eq_none_iff] at hkept
      exact (fault_unitAfter_eq_none_iff hkeeps (hfree v (by simp [hunits, hv]))).mp hkept
    · cases hresult : (step ⟨x, w.session⟩).result with
      | error first =>
          rw [fault_unitAfter_of_error hresult, Option.some.injEq] at hfault
          rw [hfault]
      | ok done =>
          rw [fault_unitAfter_of_ok hkeeps hresult, hx] at hfault
          cases hfault
    · rw [hisolated.id_eq]
      rfl
  · rintro ⟨before, x, fault, hfirst, rfl⟩
    refine hfirst.failure?_advance hisolated hkeeps fun v hv => hfree v ?_
    exact hfirst.submitted.subset (List.mem_append_left _ hv)

/-! ### The first phase that stops a unit -/

/-- The world after some phases. -/
def World.after (steps : List UnitStep) (w : World) : World :=
  steps.foldl (fun w step => w.advance step) w

/-- A step lets all units of a world pass. -/
def World.Passes (step : UnitStep) (w : World) : Prop :=
  ∀ u ∈ w.units, (step ⟨u, w.session⟩).result = .ok ()

/-- All units pass some phases, one after the other. -/
def World.PassesAll : List UnitStep → World → Prop
  | [], _ => True
  | step :: steps, w => w.Passes step ∧ (w.advance step).PassesAll steps

/-- Where a run through phases fails: all units pass the phases `passed`, and of the units in
the next one `x` is the earliest that is stopped. -/
structure FailsAt (steps : List UnitStep) (w : World) (passed : List UnitStep) (step : UnitStep)
    (before : List UnitState) (x : UnitState) (fault : Fault) : Prop where
  phases : passed ++ [step] <+: steps
  passesAll : w.PassesAll passed
  first : FirstStopped step (w.after passed) before x fault

theorem failsAt_nil_iff {first : UnitStep} :
    FailsAt (first :: steps) w [] step before x fault ↔
      step = first ∧ FirstStopped step w before x fault := by
  constructor
  · intro h
    exact ⟨(List.cons_prefix_cons.mp h.phases).1, h.first⟩
  · rintro ⟨rfl, hfirst⟩
    exact ⟨List.cons_prefix_cons.mpr ⟨rfl, List.nil_prefix⟩, trivial, hfirst⟩

theorem failsAt_cons_iff {first next : UnitStep} :
    FailsAt (first :: steps) w (next :: passed) step before x fault ↔
      next = first ∧ w.Passes first ∧
        FailsAt steps (w.advance first) passed step before x fault := by
  constructor
  · intro h
    obtain ⟨rfl, hphases⟩ := List.cons_prefix_cons.mp h.phases
    exact ⟨rfl, h.passesAll.1, hphases, h.passesAll.2, h.first⟩
  · rintro ⟨rfl, hpass, h⟩
    exact ⟨List.cons_prefix_cons.mpr ⟨rfl, h.phases⟩, ⟨hpass, h.passesAll⟩, h.first⟩

theorem passes_iff_failure?_advance (hkeeps : KeepsFault step)
    (hfree : ∀ v ∈ w.units, v.fault = none) :
    w.Passes step ↔ (w.advance step).failure? = none := by
  rw [World.failure?_advance_eq_none_iff]
  exact forall₂_congr fun v hv => (fault_unitAfter_eq_none_iff hkeeps (hfree v hv)).symm

/-- **The failure of a run through phases** is that of the earliest unit that is stopped in
the first phase in which any unit is. -/
theorem failure?_through_eq_some_iff (hsteps : ∀ step ∈ steps, Isolated step ∧ KeepsFault step)
    (hfree : ∀ v ∈ w.units, v.fault = none) :
    (w.through steps).failure? = some failure ↔
      ∃ passed step before x fault, FailsAt steps w passed step before x fault ∧
        failure = ⟨fault, some x.unit.id⟩ := by
  induction steps generalizing w with
  | nil =>
      have hnone : (w.through []).failure? = none := World.failure?_eq_none_iff.mpr hfree
      rw [hnone]
      constructor
      · intro h
        cases h
      · rintro ⟨passed, step, before, x, fault, h, -⟩
        exact absurd h.phases (by simp)
  | cons first steps ih =>
      obtain ⟨hisolated, hkeeps⟩ := hsteps first List.mem_cons_self
      have hhere : (w.advance first).failure? = some failure ↔
          ∃ before x fault, FirstStopped first w before x fault ∧
            failure = ⟨fault, some x.unit.id⟩ :=
        failure?_advance_eq_some_iff hisolated hkeeps hfree
      cases hnext : (w.advance first).failure? with
      | none =>
          -- nobody is stopped in the first phase, so the failure is one of the others
          have hpass : w.Passes first := (passes_iff_failure?_advance hkeeps hfree).mpr hnext
          have hlater := ih (w := w.advance first)
            (fun step h => hsteps step (List.mem_cons_of_mem _ h))
            (World.failure?_eq_none_iff.mp hnext)
          rw [World.through_cons hnext, hlater]
          constructor
          · rintro ⟨passed, step, before, x, fault, h, rfl⟩
            exact ⟨first :: passed, step, before, x, fault,
              failsAt_cons_iff.mpr ⟨rfl, hpass, h⟩, rfl⟩
          · rintro ⟨passed, step, before, x, fault, h, hfailure⟩
            cases passed with
            | nil =>
                obtain ⟨rfl, hfirst⟩ := failsAt_nil_iff.mp h
                rw [hnext] at hhere
                cases hhere.mpr ⟨before, x, fault, hfirst, hfailure⟩
            | cons next passed =>
                exact ⟨passed, step, before, x, fault, (failsAt_cons_iff.mp h).2.2, hfailure⟩
      | some stopped =>
          have hthrough : w.through (first :: steps) = w.advance first := by
            simp only [World.through, hnext, Option.isSome_some, if_true]
          rw [hthrough, hhere]
          constructor
          · rintro ⟨before, x, fault, hfirst, hfailure⟩
            exact ⟨[], first, before, x, fault, failsAt_nil_iff.mpr ⟨rfl, hfirst⟩, hfailure⟩
          · rintro ⟨passed, step, before, x, fault, h, hfailure⟩
            cases passed with
            | nil =>
                obtain ⟨rfl, hfirst⟩ := failsAt_nil_iff.mp h
                exact ⟨before, x, fault, hfirst, hfailure⟩
            | cons next passed =>
                have hnone := (passes_iff_failure?_advance hkeeps hfree).mp
                  (failsAt_cons_iff.mp h).2.1
                rw [hnone] at hnext
                cases hnext

/-! ### The failure of a deployment -/

/-- The first id of a list that occurred before. -/
def FirstRepeated (id : String) (ids : List String) : Prop :=
  ∃ before after, ids = before ++ id :: after ∧ before.Nodup ∧ id ∈ before

private theorem repeatedId?_seen_eq_some_iff {seen ids : List String} {id : String} :
    repeatedId? seen ids = some id ↔
      ∃ before after, ids = before ++ id :: after ∧ before.Nodup ∧ (∀ a ∈ before, a ∉ seen) ∧
        (id ∈ before ∨ id ∈ seen) := by
  induction ids generalizing seen with
  | nil => simp [repeatedId?]
  | cons first ids ih =>
      by_cases hseen : first ∈ seen
      · rw [repeatedId?, if_pos hseen, Option.some.injEq]
        constructor
        · rintro rfl
          exact ⟨[], ids, rfl, List.nodup_nil, by simp, .inr hseen⟩
        · rintro ⟨before, after, hids, -, hfresh, -⟩
          cases before with
          | nil => exact (List.cons.inj hids).1
          | cons a before =>
              obtain ⟨rfl, -⟩ := List.cons.inj hids
              exact absurd hseen (hfresh first List.mem_cons_self)
      · rw [repeatedId?, if_neg hseen, ih]
        constructor
        · rintro ⟨before, after, rfl, hnodup, hfresh, hid⟩
          have hfirst : first ∉ before := fun h => hfresh first h List.mem_cons_self
          refine ⟨first :: before, after, rfl, List.nodup_cons.mpr ⟨hfirst, hnodup⟩, ?_, ?_⟩
          · intro a ha
            rcases List.mem_cons.mp ha with rfl | ha
            · exact hseen
            · exact fun h => hfresh a ha (List.mem_cons_of_mem _ h)
          · rw [List.mem_cons] at hid ⊢
            tauto
        · rintro ⟨before, after, hids, hnodup, hfresh, hid⟩
          cases before with
          | nil =>
              obtain ⟨rfl, -⟩ := List.cons.inj hids
              rcases hid with hid | hid
              · cases hid
              · exact absurd hid hseen
          | cons a before =>
              obtain ⟨rfl, rfl⟩ := List.cons.inj hids
              obtain ⟨hfirst, hnodup⟩ := List.nodup_cons.mp hnodup
              refine ⟨before, after, rfl, hnodup, ?_, ?_⟩
              · intro a ha hmem
                rcases List.mem_cons.mp hmem with rfl | hmem
                · exact hfirst ha
                · exact hfresh a (List.mem_cons_of_mem _ ha) hmem
              · rw [List.mem_cons] at hid ⊢
                tauto

theorem repeatedId?_eq_some_iff {ids : List String} {id : String} :
    repeatedId? [] ids = some id ↔ FirstRepeated id ids := by
  rw [repeatedId?_seen_eq_some_iff, FirstRepeated]
  simp

/-- If an id is repeated no unit is looked at. -/
theorem runAlong_of_repeated (config : Config) (extent : Extent) (schedules : Schedules)
    (hopen : session.closed = false) (hids : ¬ (units.map (·.id)).Nodup) :
    ∃ id, FirstRepeated id (units.map (·.id)) ∧
      runAlong config extent schedules session units =
        failed ⟨.illegalState (.duplicateUnit id), none⟩ session
          [startNote config session units] := by
  cases hrepeated : repeatedId? [] (units.map (·.id)) with
  | none => exact absurd (repeatedId?_eq_none_iff.mp hrepeated) hids
  | some id =>
      refine ⟨id, repeatedId?_eq_some_iff.mp hrepeated, ?_⟩
      simp only [runAlong, hopen, Bool.false_eq_true, if_false, runPhases, hrepeated]

theorem fault_start : ∀ v ∈ (World.start session units).units, v.fault = none := by
  intro v hv
  obtain ⟨u, -, rfl⟩ := List.mem_map.mp hv
  rfl

/-- With distinct ids the failure is that of the earliest unit in the first phase that stops
one. -/
theorem resultOf_eq_error_iff_failsAt (hopen : session.closed = false)
    (hids : (units.map (·.id)).Nodup) :
    resultOf config extent session units = .error failure ↔
      ∃ passed step before x fault,
        FailsAt (stepsTo config units extent) (World.start session units) passed step before x
          fault ∧
        failure = ⟨fault, some x.unit.id⟩ := by
  rw [resultOf_eq_error_iff hopen hids, outcome, failure?_through_eq_some_iff]
  · intro step hstep
    exact ⟨isolated_of_mem_stepsTo hstep, keepsFault_of_mem_stepsTo hstep⟩
  · exact fault_start

theorem FailsAt.mem_steps (h : FailsAt steps w passed step before x fault) : step ∈ steps :=
  h.phases.subset (List.mem_append_right _ List.mem_cons_self)

theorem World.ids_after (hsteps : ∀ step ∈ steps, Isolated step) (w : World) :
    (w.after steps).units.map (·.unit.id) = w.units.map (·.unit.id) := by
  induction steps generalizing w with
  | nil => rfl
  | cons step steps ih =>
      calc ((w.advance step).after steps).units.map (·.unit.id)
          = (w.advance step).units.map (·.unit.id) :=
            ih (fun step h => hsteps step (List.mem_cons_of_mem _ h)) _
        _ = w.units.map (·.unit.id) := World.ids_advance (hsteps step List.mem_cons_self) w

/-- The units up to the one that is stopped are the first that were submitted. -/
theorem FailsAt.ids_isPrefix
    (h : FailsAt (stepsTo config units extent) (World.start session units) passed step before x
      fault) :
    (before ++ [x]).map (·.unit.id) <+: units.map (·.id) := by
  have hpassed : ∀ step ∈ passed, Isolated step := by
    intro step hstep
    exact isolated_of_mem_stepsTo (h.phases.subset (List.mem_append_left _ hstep))
  have hsubmitted := h.first.submitted.map fun v => v.unit.id
  rw [World.ids_after hpassed, World.start, List.map_map] at hsubmitted
  exact hsubmitted

theorem World.PassesAll.fault_after (hsteps : ∀ step ∈ steps, KeepsFault step)
    (hpassed : w.PassesAll steps) (hfree : ∀ v ∈ w.units, v.fault = none) :
    ∀ v ∈ (w.after steps).units, v.fault = none := by
  induction steps generalizing w with
  | nil => exact hfree
  | cons step steps ih =>
      have hnone : (w.advance step).failure? = none :=
        (passes_iff_failure?_advance (hsteps step List.mem_cons_self) hfree).mp hpassed.1
      exact ih (fun step h => hsteps step (List.mem_cons_of_mem _ h)) hpassed.2
        (World.failure?_eq_none_iff.mp hnone)

/-- The failing phase reports the same failure whatever units stand behind the one that is
stopped, and along any schedule. -/
theorem FailsAt.failure?_runPhase
    (h : FailsAt (stepsTo config units extent) (World.start session units) passed step before x
      fault)
    (hids : w.Distinct)
    (hsession : w.session = ((World.start session units).after passed).session)
    (hsubmitted : before ++ [x] <+: w.units) {schedule : List Nat}
    (hschedule : schedule.Perm (List.range w.units.length)) :
    (runPhase step schedule w).value.failure? = some ⟨fault, some x.unit.id⟩ := by
  have hisolated : Isolated step := isolated_of_mem_stepsTo h.mem_steps
  have hkeeps : ∀ step ∈ passed, KeepsFault step := by
    intro step hstep
    exact keepsFault_of_mem_stepsTo (h.phases.subset (List.mem_append_left _ hstep))
  have hfree : ∀ v ∈ before, v.fault = none := by
    intro v hv
    exact h.passesAll.fault_after hkeeps fault_start v
      (h.first.submitted.subset (List.mem_append_left _ hv))
  rw [runPhase_value hisolated hids hschedule]
  exact (h.first.of_isPrefix hsession hsubmitted).failure?_advance hisolated
    (keepsFault_of_mem_stepsTo h.mem_steps) hfree

/-- A failure in the scans depends on the units up to the one that is stopped and on the
indexes that these look at. -/
theorem FailsAt.of_scan
    (h : FailsAt (stepsTo config units extent) (World.start session units) [] step before x fault)
    (hsubmitted : units.take (before.length + 1) <+: units')
    (hindexes : ∀ u ∈ units.take (before.length + 1), ∀ d ∈ u.dependencies,
      indexesOf units d = indexesOf units' d) :
    FailsAt (stepsTo config units' extent) (World.start session units') []
      (scan config (indexesOf units')) before x fault := by
  have hsteps : ∀ us : List BuildUnit, ∃ rest,
      stepsTo config us extent = scan config (indexesOf us) :: rest := by
    intro us
    cases extent with
    | scanOnly => exact ⟨[], rfl⟩
    | full => exact ⟨[merge, synthesize config], rfl⟩
  obtain ⟨rest, hrest⟩ := hsteps units
  obtain ⟨rest', hrest'⟩ := hsteps units'
  rw [hrest] at h
  rw [hrest']
  obtain ⟨rfl, hfirst⟩ := failsAt_nil_iff.mp h
  have hstates : before ++ [x] = (units.take (before.length + 1)).map UnitState.ofUnit := by
    have htake := List.prefix_iff_eq_take.mp hfirst.submitted
    rw [List.length_append, World.start, ← List.map_take] at htake
    exact htake
  have hscan : ∀ v ∈ before ++ [x],
      scan config (indexesOf units') ⟨v, session⟩ = scan config (indexesOf units) ⟨v, session⟩ := by
    intro v hv
    rw [hstates] at hv
    obtain ⟨u, hu, rfl⟩ := List.mem_map.mp hv
    exact scan_congr fun d hd => (hindexes u hu d hd).symm
  refine failsAt_nil_iff.mpr ⟨rfl, ?_, ?_, ?_⟩
  · rw [hstates]
    exact hsubmitted.map UnitState.ofUnit
  · intro v hv
    show (scan config (indexesOf units') ⟨v, session⟩).result = .ok ()
    rw [hscan v (List.mem_append_left _ hv)]
    exact hfirst.passed v hv
  · show (scan config (indexesOf units') ⟨x, session⟩).result = .error fault
    rw [hscan x (List.mem_append_right _ List.mem_cons_self)]
    exact hfirst.stopped

/-- **The failure that is reported is the first one.**  Where an id is repeated, the failure
names the first repeated id and no unit, and nothing else is done.  Otherwise it names the
earliest unit that is stopped in the first phase that stops any, and holds the fault that
stopped it.  What is submitted behind that unit does not change it. -/
theorem reported_failure_is_first (config : Config) (extent : Extent)
    (hopen : session.closed = false) (hschedules : schedules.Complete units.length)
    (h : (runAlong config extent schedules session units).result = .error failure) :
    (¬ (units.map (·.id)).Nodup →
      ∃ id, FirstRepeated id (units.map (·.id)) ∧
        failure = ⟨.illegalState (.duplicateUnit id), none⟩ ∧
        runAlong config extent schedules session units =
          failed failure session [startNote config session units]) ∧
    ((units.map (·.id)).Nodup →
      ∃ passed step before x fault,
        FailsAt (stepsTo config units extent) (World.start session units) passed step before x
          fault ∧
        (before ++ [x]).map (·.unit.id) <+: units.map (·.id) ∧
        failure = ⟨fault, some x.unit.id⟩ ∧
        failure.message = "deployment of unit " ++ x.unit.id ++ " failed: " ++ fault.message ∧
        (∀ (w : World) (schedule : List Nat), w.Distinct →
          w.session = ((World.start session units).after passed).session →
          before ++ [x] <+: w.units → schedule.Perm (List.range w.units.length) →
          (runPhase step schedule w).value.failure? = some failure) ∧
        (passed = [] → ∀ (units' : List BuildUnit) (schedules' : Schedules),
          (units'.map (·.id)).Nodup → schedules'.Complete units'.length →
          units.take (before.length + 1) <+: units' →
          (∀ u ∈ units.take (before.length + 1), ∀ d ∈ u.dependencies,
            indexesOf units d = indexesOf units' d) →
          (runAlong config extent schedules' session units').result = .error failure)) := by
  constructor
  · intro hids
    obtain ⟨id, hfirst, hrun⟩ := runAlong_of_repeated config extent schedules hopen hids
    have hfailure : failure = ⟨.illegalState (.duplicateUnit id), none⟩ := by
      rw [hrun, failed, Except.error.injEq] at h
      exact h.symm
    refine ⟨id, hfirst, hfailure, ?_⟩
    rw [hrun, hfailure]
  · intro hids
    rw [runAlong_result hschedules] at h
    obtain ⟨passed, step, before, x, fault, hfails, rfl⟩ :=
      (resultOf_eq_error_iff_failsAt hopen hids).mp h
    refine ⟨passed, step, before, x, fault, hfails, hfails.ids_isPrefix, rfl, rfl, ?_, ?_⟩
    · intro w schedule hdistinct hsession hsubmitted hschedule
      exact hfails.failure?_runPhase hdistinct hsession hsubmitted hschedule
    · rintro rfl units' schedules' hids' hschedules' hsubmitted hindexes
      rw [runAlong_result hschedules']
      exact (resultOf_eq_error_iff_failsAt hopen hids').mpr
        ⟨[], _, before, x, fault, hfails.of_scan hsubmitted hindexes, rfl⟩

/-- Units of which two are stopped by their scans: a web application with a servlet class that
cannot be loaded, and `report`, which has published before. -/
def stoppedTwice : Manifest where
  deployment := "shop"
  units :=
    [{ id := "base", classes := [plainClass "Items" [ pathAnnotation] none] },
      { id := "web", parent := some "ear", dependencies := ["base"],
        descriptor := some { servlets := [{ name := "shop", servletClass := some "Gone" }] } },
      { id := "report" }]

/-- An open session in which `report` has published. -/
def reportPublished : Session where
  name := "shop"
  table := (∅ : NameMap Metadata).insert "report" {}

/-- Units of which two ids are repeated. -/
def repeatedTwice : Manifest where
  deployment := "shop"
  units := [{ id := "base" }, { id := "web" }, { id := "web" }, { id := "base" }]

/-- Of two units that are stopped the web application is reported, and of two ids that are
repeated the one that is repeated first. -/
theorem reported_failure_is_first_stoppedTwice :
    reportPublished.closed = false ∧
      (∃ passed step before x fault,
        FailsAt (stepsTo {} (stoppedTwice.build {}) .full)
          (World.start reportPublished (stoppedTwice.build {})) passed step before x fault ∧
        (⟨.classNotFound "Gone", some "web"⟩ : Failure) = ⟨fault, some x.unit.id⟩) ∧
      (scan {} (indexesOf (stoppedTwice.build {}))
        ⟨.ofUnit (({ id := "report" } : UnitManifest).build {}), reportPublished⟩).result =
          .error (.illegalState (.unpublishable "report")) ∧
      ∃ id, FirstRepeated id ((repeatedTwice.build {}).map (·.id)) ∧
        (⟨.illegalState (.duplicateUnit "web"), none⟩ : Failure) =
          ⟨.illegalState (.duplicateUnit id), none⟩ := by
  have hstopped : (runAlong {} .full (inOrder (stoppedTwice.build {})) reportPublished
      (stoppedTwice.build {})).result = .error ⟨.classNotFound "Gone", some "web"⟩ := by
    decide +kernel
  have hrepeated : (runAlong {} .full (inOrder (repeatedTwice.build {})) reportPublished
      (repeatedTwice.build {})).result = .error ⟨.illegalState (.duplicateUnit "web"), none⟩ := by
    decide +kernel
  obtain ⟨-, hfirst⟩ := reported_failure_is_first {} .full rfl (complete_inOrder _) hstopped
  obtain ⟨hduplicate, -⟩ := reported_failure_is_first {} .full rfl (complete_inOrder _) hrepeated
  obtain ⟨passed, step, before, x, fault, hfails, -, hfailure, -⟩ := hfirst (by decide +kernel)
  obtain ⟨id, hid, hfailed, -⟩ := hduplicate (by decide +kernel)
  exact ⟨rfl, ⟨passed, step, before, x, fault, hfails, hfailure⟩, by decide +kernel,
    id, hid, hfailed⟩

end RestDeployment.Deployment
