import Mathlib.Data.List.Nodup
import RestDeployment.Deployment.Run

/-!
# A phase along any schedule

`runPhase` lets the units take a step one after the other, along a schedule.  This
file says what comes out of it without the schedule: `World.advance` gives every
unit what its step makes of it in the session that the phase *began* with, and
folds what the steps write into that session in the order of submission.

## Strategy

The steps of two units meet only in the session.  `Isolated` asks three things of
a step: it keeps the id of its unit, it does not see what the steps of other units
write, and what two units write does not depend on who comes first.  From these

* `foldl_runAt_value` follows a schedule position by position.  The units at
  visited positions have taken their step in the *initial* session, the others are
  as they were;
* `runPhase_value` says that a schedule that visits every position once leads to
  `World.advance`.  The units are settled by the lemma before, the session by
  sorting the visited units into the order of submission;
* `runSteps_value` chains phases up to the first in which a unit fails.
-/

namespace RestDeployment.Deployment

variable {step : UnitStep}

/-! ### One step -/

/-- The unit that a step leaves, with the fault that stopped it if there was one. -/
def unitAfter (step : UnitStep) (s : Session) (u : UnitState) : UnitState :=
  match (step ⟨u, s⟩).result with
  | .error fault => { (step ⟨u, s⟩).state.unit with fault := some fault }
  | .ok () => (step ⟨u, s⟩).state.unit

/-- The session that a step leaves. -/
def sessionAfter (step : UnitStep) (s : Session) (u : UnitState) : Session :=
  (step ⟨u, s⟩).state.session

/-- Steps of different units do not disturb each other. -/
structure Isolated (step : UnitStep) : Prop where
  id_eq : ∀ s u, (unitAfter step s u).unit.id = u.unit.id
  unseen : ∀ s u v, u.unit.id ≠ v.unit.id →
    unitAfter step (sessionAfter step s v) u = unitAfter step s u
  comm : ∀ s u v, u.unit.id ≠ v.unit.id →
    sessionAfter step (sessionAfter step s u) v = sessionAfter step (sessionAfter step s v) u

/-- A step that leaves the session alone disturbs nobody. -/
theorem Isolated.of_session_eq (hid : ∀ s u, (unitAfter step s u).unit.id = u.unit.id)
    (hsession : ∀ s u, sessionAfter step s u = s) : Isolated step where
  id_eq := hid
  unseen s u v _ := by rw [hsession]
  comm s u v _ := by simp only [hsession]

namespace World

/-- No two units of the world have the same id. -/
def Distinct (w : World) : Prop := (w.units.map (·.unit.id)).Nodup

/-- The world after every unit has taken a step in the session of this world. -/
def advance (step : UnitStep) (w : World) : World where
  units := w.units.map (unitAfter step w.session)
  session := w.units.foldl (sessionAfter step) w.session

theorem Distinct.eq_of_id_eq {w : World} (hids : w.Distinct) {u v : UnitState}
    (hu : u ∈ w.units) (hv : v ∈ w.units) (h : u.unit.id = v.unit.id) : u = v :=
  List.inj_on_of_nodup_map hids hu hv h

theorem Distinct.index_eq {w : World} (hids : w.Distinct) {i j : Nat} {u v : UnitState}
    (hu : w.units[i]? = some u) (hv : w.units[j]? = some v) (h : u.unit.id = v.unit.id) :
    i = j := by
  have hi : i < (w.units.map (·.unit.id)).length := by
    rw [List.length_map]
    exact (List.getElem?_eq_some_iff.mp hu).1
  refine (List.getElem?_inj hi hids).mp ?_
  rw [List.getElem?_map, List.getElem?_map, hu, hv, Option.map_some, Option.map_some, h]

/-- Taking a step, the units keep their ids and their places. -/
theorem ids_advance (hstep : Isolated step) (w : World) :
    (w.advance step).units.map (·.unit.id) = w.units.map (·.unit.id) := by
  simp only [World.advance, List.map_map]
  exact List.map_congr_left fun u _ => hstep.id_eq w.session u

theorem Distinct.advance {w : World} (hids : w.Distinct) (hstep : Isolated step) :
    (w.advance step).Distinct := by
  unfold Distinct
  rw [ids_advance hstep]
  exact hids

@[simp] theorem length_advance (w : World) : (w.advance step).units.length = w.units.length :=
  List.length_map _

end World

/-! ### Along a schedule -/

theorem runAt_value (step : UnitStep) {w : Traced World} {i : Nat} {u : UnitState}
    (hu : w.value.units[i]? = some u) :
    (runAt step w i).value =
      ⟨w.value.units.set i (unitAfter step w.value.session u),
        sessionAfter step w.value.session u⟩ := by
  cases hresult : (step ⟨u, w.value.session⟩).result <;>
    simp only [runAt, hu, unitAfter, sessionAfter, hresult]

private theorem distinct_set {us : List UnitState} {s t : Session} {i : Nat} {v : UnitState}
    (hi : i < us.length) (hid : v.unit.id = us[i].unit.id) (hids : (World.mk us s).Distinct) :
    (World.mk (us.set i v) t).Distinct := by
  have hsame : (us.set i v).map (·.unit.id) = us.map (·.unit.id) := by
    have hkeep : (us.map (·.unit.id)).set i us[i].unit.id = us.map (·.unit.id) := by
      rw [← List.map_set, List.set_getElem_self]
    rw [List.map_set, hid, hkeep]
  unfold World.Distinct
  rw [hsame]
  exact hids

/-- Following a schedule that visits no position twice: whoever was visited has
taken the step in the session that the phase began with. -/
theorem foldl_runAt_value (hstep : Isolated step) {schedule : List Nat} {w : Traced World}
    (hids : w.value.Distinct) (hnodup : schedule.Nodup)
    (hlt : ∀ i ∈ schedule, i < w.value.units.length) :
    (schedule.foldl (runAt step) w).value =
      ⟨w.value.units.mapIdx fun i u =>
          if i ∈ schedule then unitAfter step w.value.session u else u,
        (schedule.filterMap fun i => w.value.units[i]?).foldl (sessionAfter step)
          w.value.session⟩ := by
  induction schedule generalizing w with
  | nil =>
      obtain ⟨⟨us, s⟩, notes⟩ := w
      have hnone : (us.mapIdx fun _ u => u) = us := List.ext_getElem? fun i => by simp
      simp [hnone]
  | cons p schedule ih =>
      obtain ⟨⟨us, s⟩, notes⟩ := w
      rw [List.nodup_cons] at hnodup
      have hp : p < us.length := hlt p (by simp)
      have hu : us[p]? = some us[p] := List.getElem?_eq_getElem hp
      have hvalue := runAt_value step (w := ⟨⟨us, s⟩, notes⟩) hu
      have hothers : ∀ i, i ≠ p →
          (us.set p (unitAfter step s us[p]))[i]? = us[i]? := fun i hi =>
        List.getElem?_set_ne (Ne.symm hi)
      rw [List.foldl_cons, ih]
      · simp only [hvalue, World.mk.injEq]
        refine ⟨List.ext_getElem? fun i => ?_, ?_⟩
        · rw [List.getElem?_mapIdx, List.getElem?_mapIdx]
          by_cases hi : i = p
          · -- the position just visited, which is not visited again
            subst hi
            simp [hnodup.1, hp]
          · rw [hothers i hi]
            cases hv : us[i]? with
            | none => rfl
            | some v =>
                -- a later unit takes its step in the session that this one leaves,
                -- and does not see the difference
                have hne : v.unit.id ≠ us[p].unit.id := fun h => hi (hids.index_eq hv hu h)
                simp [hi, hstep.unseen s v us[p] hne]
        · -- the session: the positions still to be visited hold the units they held
          have hvisited : (schedule.filterMap fun i =>
              (us.set p (unitAfter step s us[p]))[i]?) = schedule.filterMap fun i => us[i]? :=
            List.filterMap_congr fun i hi => hothers i fun h => hnodup.1 (h ▸ hi)
          rw [hvisited, List.filterMap_cons_some hu, List.foldl_cons]
      · rw [hvalue]
        exact distinct_set hp (hstep.id_eq s us[p]) hids
      · exact hnodup.2
      · intro i hi
        rw [hvalue]
        simpa using hlt i (List.mem_cons_of_mem p hi)

/-- What units write into the session does not depend on their order. -/
theorem foldl_sessionAfter_perm (hstep : Isolated step) {w : World} (hids : w.Distinct)
    {us : List UnitState} (hperm : us.Perm w.units) (s : Session) :
    us.foldl (sessionAfter step) s = w.units.foldl (sessionAfter step) s := by
  refine hperm.foldl_eq' (fun u hu v hv t => ?_) s
  -- units of one id are one unit, and units of different ids commute
  by_cases h : u.unit.id = v.unit.id
  · rw [hids.eq_of_id_eq (hperm.mem_iff.mp hu) (hperm.mem_iff.mp hv) h]
  · exact hstep.comm t u v h

private theorem filterMap_range_getElem? {α : Type} (l : List α) :
    (List.range l.length).filterMap (fun i => l[i]?) = l := by
  induction l with
  | nil => rfl
  | cons a l ih => simp [List.range_succ_eq_map, List.filterMap_map, ih]

/-- **A phase does not depend on its schedule.**  If every position is visited once,
every unit takes its step in the session that the phase began with. -/
theorem runPhase_value (hstep : Isolated step) {w : World} (hids : w.Distinct)
    {schedule : List Nat} (hschedule : schedule.Perm (List.range w.units.length)) :
    (runPhase step schedule w).value = w.advance step := by
  have hmem : ∀ i, i ∈ schedule ↔ i < w.units.length := fun i => by
    rw [hschedule.mem_iff, List.mem_range]
  have hvisited : (schedule.filterMap fun i => w.units[i]?).Perm w.units := by
    have h := hschedule.filterMap fun i => w.units[i]?
    rwa [filterMap_range_getElem?] at h
  unfold runPhase
  rw [foldl_runAt_value hstep hids (hschedule.nodup_iff.mpr List.nodup_range)
    fun i hi => (hmem i).mp hi]
  simp only [World.advance, World.mk.injEq]
  refine ⟨List.ext_getElem? fun i => ?_, foldl_sessionAfter_perm hstep hids hvisited _⟩
  rw [List.getElem?_mapIdx, List.getElem?_map]
  cases hv : w.units[i]? with
  | none => rfl
  | some v => simp [hmem, (List.getElem?_eq_some_iff.mp hv).1]

/-! ### Phase after phase -/

/-- The world after some steps of all units, up to the first in which a unit fails. -/
def World.through : List UnitStep → World → World
  | [], w => w
  | step :: steps, w =>
    let next := w.advance step
    if next.failure?.isSome then next else World.through steps next

theorem World.ids_through {steps : List UnitStep} (hsteps : ∀ step ∈ steps, Isolated step)
    (w : World) : (w.through steps).units.map (·.unit.id) = w.units.map (·.unit.id) := by
  induction steps generalizing w with
  | nil => rfl
  | cons step steps ih =>
      have hadvance := World.ids_advance (hsteps step (by simp)) w
      simp only [World.through]
      split
      · exact hadvance
      · rw [ih fun step h => hsteps step (List.mem_cons_of_mem _ h), hadvance]

/-- **A run does not depend on the schedules of its phases.** -/
theorem runSteps_value {phases : List (UnitStep × List Nat)} {w : World} (hids : w.Distinct)
    (hphases : ∀ phase ∈ phases,
      Isolated phase.1 ∧ phase.2.Perm (List.range w.units.length)) :
    (runSteps phases w).value = w.through (phases.map Prod.fst) := by
  induction phases generalizing w with
  | nil => rfl
  | cons phase phases ih =>
      obtain ⟨step, schedule⟩ := phase
      obtain ⟨hstep, hschedule⟩ := hphases (step, schedule) (by simp)
      have hvalue := runPhase_value hstep hids hschedule
      simp only [runSteps, List.map_cons, World.through, hvalue]
      split
      · exact hvalue
      · refine ih (hids.advance hstep) fun phase hphase => ?_
        rw [World.length_advance]
        exact hphases phase (List.mem_cons_of_mem _ hphase)

end RestDeployment.Deployment
