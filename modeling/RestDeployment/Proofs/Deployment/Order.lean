import RestDeployment.Manifest
import RestDeployment.Proofs.Deployment.Outcome

/-!
# The order of the units does not matter

Units may be submitted in any order, and inside a phase they may be processed in any
order.  Processing is settled by `runAlong_result`: along complete schedules the
result is `resultOf`, in which no schedule occurs.  This file compares `resultOf` for
two orders of submission.

## Strategy

Two worlds are `Rearranged` if they have the same units, in whatever order, and the
same session.  A phase keeps worlds rearranged, as the units publish under different
ids (`foldl_sessionAfter_perm`), and so does the run through all phases.  Rearranged
worlds fail alike, and the report on a unit is looked up by its id, which is the id
of one unit only.
-/

namespace RestDeployment.Deployment

variable {config : Config} {extent : Extent} {session : Session} {step : UnitStep}

/-! ### Rearranged worlds -/

/-- The same units in another order, in the same session. -/
structure World.Rearranged (w w' : World) : Prop where
  units : w.units.Perm w'.units
  session : w.session = w'.session

namespace World.Rearranged

variable {w w' : World}

theorem advance (h : w.Rearranged w') (hids : w.Distinct) (hstep : Isolated step) :
    (w.advance step).Rearranged (w'.advance step) where
  units := by
    simp only [World.advance, h.session]
    exact h.units.map _
  session := by
    simp only [World.advance, h.session]
    exact (foldl_sessionAfter_perm hstep hids h.units.symm _).symm

/-- A unit fails in one world exactly if one fails in the other; which one is
reported may differ. -/
theorem failure?_eq_none_iff (h : w.Rearranged w') : w.failure? = none ↔ w'.failure? = none := by
  simp only [World.failure?_eq_none_iff, h.units.mem_iff]

theorem isSome_failure? (h : w.Rearranged w') : w.failure?.isSome = w'.failure?.isSome := by
  rw [Bool.eq_iff_iff, Option.isSome_iff_ne_none, Option.isSome_iff_ne_none, ne_eq, ne_eq,
    h.failure?_eq_none_iff]

theorem through {steps : List UnitStep} (h : w.Rearranged w') (hids : w.Distinct)
    (hsteps : ∀ step ∈ steps, Isolated step) :
    (w.through steps).Rearranged (w'.through steps) := by
  induction steps generalizing w w' with
  | nil => exact h
  | cons step steps ih =>
      have hstep := hsteps step (by simp)
      have hnext := h.advance hids hstep
      -- both worlds stop after this phase, or neither does
      simp only [World.through, hnext.isSome_failure?]
      split
      · exact hnext
      · exact ih hnext (hids.advance hstep) fun step h => hsteps step (List.mem_cons_of_mem _ h)

end World.Rearranged

/-! ### Rearranged submissions -/

variable {units units' : List BuildUnit}

theorem indexesOf_perm (hids : (units.map (·.id)).Nodup) (hperm : units.Perm units') :
    indexesOf units = indexesOf units' := by
  funext id
  simp only [indexesOf, find?_perm (f := BuildUnit.id) hids hperm]

theorem stepsTo_perm (hids : (units.map (·.id)).Nodup) (hperm : units.Perm units') :
    stepsTo config units extent = stepsTo config units' extent := by
  cases extent <;> simp only [stepsTo, indexesOf_perm hids hperm]

theorem outcome_perm (config : Config) (extent : Extent) (session : Session)
    (hids : (units.map (·.id)).Nodup) (hperm : units.Perm units') :
    (outcome config extent session units).Rearranged (outcome config extent session units') := by
  unfold outcome
  rw [← stepsTo_perm hids hperm]
  exact World.Rearranged.through ⟨hperm.map _, rfl⟩ (distinct_start session hids)
    fun step h => isolated_of_mem_stepsTo h

/-- A deployment ends well in one order of submission exactly if it does in another. -/
theorem resultOf_ok_perm (hids : (units.map (·.id)).Nodup) (hperm : units.Perm units') :
    (∃ r, resultOf config extent session units = .ok r) ↔
      ∃ r, resultOf config extent session units' = .ok r := by
  have hids' : (units'.map (·.id)).Nodup := (hperm.map (·.id)).nodup_iff.mp hids
  have hfailure := (outcome_perm config extent session hids hperm).failure?_eq_none_iff
  simp only [resultOf_eq_ok_iff, hfailure, hids, hids', true_and]
  exact ⟨fun ⟨_, hclosed, hnone, _⟩ => ⟨_, hclosed, hnone, rfl⟩,
    fun ⟨_, hclosed, hnone, _⟩ => ⟨_, hclosed, hnone, rfl⟩⟩

theorem unit?_perm (hids : (units.map (·.id)).Nodup) (hperm : units.Perm units')
    {r r' : Report} (hr : resultOf config extent session units = .ok r)
    (hr' : resultOf config extent session units' = .ok r') (id : String) :
    r.unit? id = r'.unit? id := by
  obtain ⟨-, -, -, rfl⟩ := resultOf_eq_ok_iff.mp hr
  obtain ⟨-, -, -, rfl⟩ := resultOf_eq_ok_iff.mp hr'
  have hperm' := (outcome_perm config extent session hids hperm).units
  rw [unit?_map_ofState, unit?_map_ofState, (distinct_outcome hids).find?_perm hperm']

theorem exists_unit? (hids : (units.map (·.id)).Nodup) {r : Report}
    (hr : resultOf config extent session units = .ok r) {u : BuildUnit} (hu : u ∈ units) :
    ∃ x, r.unit? u.id = some x := by
  obtain ⟨-, -, -, rfl⟩ := resultOf_eq_ok_iff.mp hr
  have hid : u.id ∈ (outcome config extent session units).units.map (·.unit.id) := by
    rw [ids_outcome]
    exact List.mem_map_of_mem hu
  obtain ⟨v, hv, hvid⟩ := List.mem_map.mp hid
  refine ⟨UnitReport.ofState v, ?_⟩
  rw [unit?_map_ofState, ← hvid, (distinct_outcome hids).find?_of_mem hv]
  rfl

/-! ### The main statement -/

/-- **Neither the order of submission nor the order of execution matters.**  Units
with distinct ids, submitted in any order and processed along any complete
schedules, are deployed in one order exactly if they are in the other, and then the
same is reported about each of them.  For one order of submission the whole result,
a failure included, is the same along all complete schedules. -/
theorem deployment_independent_of_order (config : Config) (extent : Extent) (name : String)
    (hids : (units.map (·.id)).Nodup) (hperm : units.Perm units') {schedules schedules' : Schedules}
    (hschedules : schedules.Complete units.length)
    (hschedules' : schedules'.Complete units'.length) :
    ((∃ r, (runAlong config extent schedules { name := name } units).result = .ok r) ↔
        ∃ r, (runAlong config extent schedules' { name := name } units').result = .ok r) ∧
      (∀ r r', (runAlong config extent schedules { name := name } units).result = .ok r →
        (runAlong config extent schedules' { name := name } units').result = .ok r' →
        ∀ u ∈ units, ∃ x, r.unit? u.id = some x ∧ r'.unit? u.id = some x) ∧
      ∀ other : Schedules, other.Complete units.length →
        (runAlong config extent other { name := name } units).result =
          (runAlong config extent schedules { name := name } units).result := by
  simp only [runAlong_result hschedules, runAlong_result hschedules']
  refine ⟨resultOf_ok_perm hids hperm, fun r r' hr hr' u hu => ?_, fun other hother => ?_⟩
  · obtain ⟨x, hx⟩ := exists_unit? hids hr hu
    exact ⟨x, hx, unit?_perm hids hperm hr hr' u.id ▸ hx⟩
  · exact runAlong_result hother

/-- A web application that inherits a resource from a library. -/
def libraryAndWeb : Manifest where
  deployment := "shop"
  units :=
    [{ id := "lib", classes := [plainClass "Items" [ pathAnnotation] none] },
      { id := "web", parent := some "shop", dependencies := ["lib"], descriptor := some {} }]

/-- The library and the web application, submitted and scanned the other way round. -/
theorem deployment_independent_of_order_libraryAndWeb :
    ∃ r r' x, (runAlong {} .full ⟨[0, 1], [0, 1], [0, 1]⟩ { name := "shop" }
        (libraryAndWeb.build {})).result = .ok r ∧
      (runAlong {} .full ⟨[1, 0], [0, 1], [1, 0]⟩ { name := "shop" }
        (libraryAndWeb.build {}).reverse).result = .ok r' ∧
      r.unit? "web" = some x ∧ r'.unit? "web" = some x ∧ "Items" ∈ x.metadata.resources := by
  have hids : ((libraryAndWeb.build {}).map (·.id)).Nodup := by decide
  have hforward : Schedules.Complete ⟨[0, 1], [0, 1], [0, 1]⟩ (libraryAndWeb.build {}).length :=
    ⟨by decide, by decide, by decide⟩
  have hbackward : Schedules.Complete ⟨[1, 0], [0, 1], [1, 0]⟩
      (libraryAndWeb.build {}).reverse.length := ⟨by decide, by decide, by decide⟩
  obtain ⟨hok, hsame, -⟩ := deployment_independent_of_order {} .full "shop" hids
    (List.reverse_perm _).symm hforward hbackward
  obtain ⟨r, x, hr, hx, hitems⟩ := exists_unit?_of_any
    (runAlong {} .full ⟨[0, 1], [0, 1], [0, 1]⟩ { name := "shop" } (libraryAndWeb.build {})).result
    "web" (fun x => decide ("Items" ∈ x.metadata.resources)) (by decide +kernel)
  obtain ⟨r', hr'⟩ := hok.mp ⟨r, hr⟩
  obtain ⟨y, hy, hy'⟩ := hsame r r' hr hr' _ (List.mem_cons_of_mem _ (List.mem_singleton.mpr rfl))
  have hxy : x = y := Option.some.inj (hx.symm.trans hy)
  exact ⟨r, r', x, hr, hr', hx, hxy ▸ hy', by simpa using hitems⟩

end RestDeployment.Deployment
