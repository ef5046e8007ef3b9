import RestDeployment.Proofs.Deployment.Outcome

/-!
# What units publish and what is reported about them

This file reads the result of a deployment in a fresh session off its units, one by
one.  Three functions say what becomes of a unit when nothing goes wrong:
`scannedState` after the first phase, `inheritedState` after the second and
`finalState` at the end.  No session occurs in them.  What a unit inherits is
`published`, which depends on the scans alone, so the second phase never sees what
other units have inherited in it.

Main statements: `resultOf_scanOnly_eq_ok_iff` and `resultOf_full_eq_ok_iff` say
when a deployment ends well and what it then reports.
-/

namespace RestDeployment.Deployment

variable {config : Config} {indexes : Indexes} {units : List BuildUnit} {u : BuildUnit}
  {name : String} {s : Session} {x : UnitState} {step : UnitStep} {w : World} {r : Report}

/-! ### Phases without failure -/

theorem World.failure?_advance_eq_none_iff :
    (w.advance step).failure? = none ↔
      ∀ x ∈ w.units, (unitAfter step w.session x).fault = none := by
  simp [World.failure?_eq_none_iff, World.advance]

/-- A run through phases fails nowhere exactly if neither its first phase nor the
run through the others does. -/
theorem World.failure?_through_cons {steps : List UnitStep} :
    (w.through (step :: steps)).failure? = none ↔
      (w.advance step).failure? = none ∧ ((w.advance step).through steps).failure? = none := by
  simp only [World.through]
  cases hnext : (w.advance step).failure? with
  | none => simp
  | some failure => simp [hnext]

theorem World.through_cons {steps : List UnitStep} (h : (w.advance step).failure? = none) :
    w.through (step :: steps) = (w.advance step).through steps := by
  simp only [World.through, h, Option.isSome_none, Bool.false_eq_true, if_false]

/-! ### Scanning in a fresh session -/

/-- The metadata that a survey ends with; none of it counts if the survey fails. -/
def Survey.found (v : Survey) : Metadata := v.metadata.toOption.getD {}

theorem Survey.found_of_ok {v : Survey} {m : Metadata} (h : v.metadata = .ok m) :
    v.found = m := by
  rw [Survey.found, h]
  rfl

/-- A unit after a scan that went well. -/
def scannedState (config : Config) (units : List BuildUnit) (u : BuildUnit) : UnitState where
  unit := (survey config (indexesOf units) u).unit
  phase := .classified
  metadata := (survey config (indexesOf units) u).found
  findings := (survey config (indexesOf units) u).findings

/-- What a unit publishes: the metadata that its scan ends with. -/
def published (config : Config) (units : List BuildUnit) (id : String) : Option Metadata :=
  (units.find? fun u => u.id == id).bind fun u =>
    (survey config (indexesOf units) u).metadata.toOption

/-- The scan of every unit goes well. -/
def Scannable (config : Config) (units : List BuildUnit) : Prop :=
  ∀ u ∈ units, ∃ m, (survey config (indexesOf units) u).metadata = .ok m

theorem unitAfter_scan_of_error {fault : Fault}
    (h : (survey config indexes u).metadata = .error fault) :
    (unitAfter (scan config indexes) s (.ofUnit u)).fault = some fault := by
  rw [unitAfter_scan rfl]
  simp only [UnitState.ofUnit, h]

theorem unitAfter_scan_of_ok {m : Metadata}
    (h : (survey config (indexesOf units) u).metadata = .ok m) :
    unitAfter (scan config (indexesOf units)) { name := name } (.ofUnit u) =
      scannedState config units u := by
  have haccepts : ({ name := name } : Session).accepts u.id = true := rfl
  rw [unitAfter_scan rfl]
  simp only [UnitState.ofUnit, h, haccepts, if_true, scannedState, Survey.found_of_ok h,
    UnitState.surveyed, List.nil_append]

/-- In a fresh session a scan goes well exactly if the unit alone gives no reason
against it. -/
theorem fault_unitAfter_scan_eq_none_iff :
    (unitAfter (scan config (indexesOf units)) { name := name } (.ofUnit u)).fault = none ↔
      ∃ m, (survey config (indexesOf units) u).metadata = .ok m := by
  cases h : (survey config (indexesOf units) u).metadata with
  | error fault => simp [unitAfter_scan_of_error h]
  | ok m => simp [unitAfter_scan_of_ok h, scannedState]

/-- The world after all scans of a deployment in a fresh session. -/
def scannedWorld (config : Config) (name : String) (units : List BuildUnit) : World :=
  (World.start { name := name } units).advance (scan config (indexesOf units))

/-- **The session after all scans holds what each unit published.** -/
theorem lookup_scannedWorld (hids : (units.map (·.id)).Nodup) (id : String) :
    (scannedWorld config name units).session.lookup id = published config units id := by
  have hoffer : (scannedWorld config name units).session =
      units.foldl (fun t u => t.offer u.id (survey config (indexesOf units) u).metadata.toOption)
        { name := name } := by
    simp only [scannedWorld, World.advance, World.start, List.foldl_map, sessionAfter_scan]
    rfl
  have hempty : ({ name := name } : Session).lookup id = none := rfl
  rw [hoffer, Session.lookup_foldl_offer (f := fun u : BuildUnit => u.id) rfl hids, hempty,
    Option.none_or]
  rfl

theorem scannedWorld_failure?_eq_none_iff :
    (scannedWorld config name units).failure? = none ↔
      Scannable config units := by
  simp only [scannedWorld, World.failure?_advance_eq_none_iff, World.start,
    List.forall_mem_map, fault_unitAfter_scan_eq_none_iff, Scannable]

theorem units_scannedWorld (h : Scannable config units) :
    (scannedWorld config name units).units = units.map (scannedState config units) := by
  simp only [scannedWorld, World.advance, World.start, List.map_map]
  refine List.map_congr_left fun u hu => ?_
  obtain ⟨m, hm⟩ := h u hu
  exact unitAfter_scan_of_ok hm

@[simp] theorem name_scannedWorld : (scannedWorld config name units).session.name = name := by
  have hname : ∀ (us : List UnitState) (t : Session),
      (us.foldl (sessionAfter (scan config (indexesOf units))) t).name = t.name := by
    intro us
    induction us with
    | nil =>
        intro t
        rfl
    | cons x us ih =>
        intro t
        rw [List.foldl_cons, ih, sessionAfter_scan, Session.offer_name]
  exact hname _ _

/-! ### Inheriting -/

/-- A unit after it has inherited, where `lookup` is what other units published. -/
def inheriting (lookup : String → Option Metadata) (x : UnitState) : UnitState :=
  if x.unit.parent.isSome then
    let merged := x.metadata.mergeAll lookup x.unit.id x.unit.dependencies
    { x with
      phase := .merged
      metadata := merged.1
      merge := some merged.2
      findings := x.findings ++ droppedFindings merged.2 }
  else { x with phase := .merged }

theorem unitAfter_merge_eq_inheriting (h : x.phase = .classified) :
    unitAfter merge s x = inheriting s.lookup x := by
  rw [unitAfter_merge h]
  unfold inherit inheriting
  split <;> rfl

/-- A unit at the end of the second phase. -/
def inheritedState (config : Config) (units : List BuildUnit) (u : BuildUnit) : UnitState :=
  inheriting (published config units) (scannedState config units u)

theorem inheritedState_unit :
    (inheritedState config units u).unit = (survey config (indexesOf units) u).unit := by
  unfold inheritedState inheriting
  split <;> rfl

@[simp] theorem inheritedState_phase : (inheritedState config units u).phase = .merged := by
  unfold inheritedState inheriting
  split <;> rfl

@[simp] theorem inheritedState_fault : (inheritedState config units u).fault = none := by
  unfold inheritedState inheriting
  split <;> rfl

/-! ### Setting up dispatchers -/

/-- Whether the dispatchers of a unit can be set up. -/
def Dispatchable (config : Config) (x : UnitState) : Prop :=
  ∀ web, x.unit.descriptor = some web →
    ∃ registration, (registrationOf config x web).result = .ok registration

/-- A unit after its dispatchers have been set up. -/
def dispatched (config : Config) (x : UnitState) : UnitState :=
  match x.unit.descriptor with
  | none => { x with phase := .synthesized }
  | some web =>
    { x.registered (registrationOf config x web) with
      registration := (registrationOf config x web).result.toOption
      phase := .synthesized }

/-- A unit at the end of a deployment. -/
def finalState (config : Config) (units : List BuildUnit) (u : BuildUnit) : UnitState :=
  dispatched config (inheritedState config units u)

theorem unitAfter_synthesize_of_dispatchable (hphase : x.phase = .merged)
    (h : Dispatchable config x) : unitAfter (synthesize config) s x = dispatched config x := by
  rw [unitAfter_synthesize hphase]
  unfold dispatched
  cases hweb : x.unit.descriptor with
  | none => rfl
  | some web =>
      obtain ⟨registration, hregistration⟩ := h web hweb
      simp only [hregistration]
      rfl

theorem fault_unitAfter_synthesize_eq_none_iff (hphase : x.phase = .merged)
    (hfault : x.fault = none) :
    (unitAfter (synthesize config) s x).fault = none ↔ Dispatchable config x := by
  rw [unitAfter_synthesize hphase]
  unfold Dispatchable
  cases hweb : x.unit.descriptor with
  | none => simp [hfault]
  | some web =>
      cases hr : (registrationOf config x web).result with
      | error fault => simp [hr]
      | ok registration => simp [hr, UnitState.registered, hfault]

/-! ### The worlds after the phases -/

/-- The world after the second phase of a deployment in a fresh session. -/
def inheritedWorld (config : Config) (name : String) (units : List BuildUnit) : World :=
  (scannedWorld config name units).advance merge

theorem units_inheritedWorld (hids : (units.map (·.id)).Nodup) (hscan : Scannable config units) :
    (inheritedWorld config name units).units = units.map (inheritedState config units) := by
  have hlookup : (scannedWorld config name units).session.lookup = published config units :=
    funext fun id => lookup_scannedWorld hids id
  simp only [inheritedWorld, World.advance, units_scannedWorld hscan, List.map_map]
  refine List.map_congr_left fun u _ => ?_
  rw [Function.comp_apply, unitAfter_merge_eq_inheriting rfl, hlookup]
  rfl

theorem inheritedWorld_failure? (hids : (units.map (·.id)).Nodup) (hscan : Scannable config units) :
    (inheritedWorld config name units).failure? = none := by
  rw [World.failure?_eq_none_iff, units_inheritedWorld hids hscan]
  simp

/-- The world after the last phase of a deployment in a fresh session. -/
def dispatchedWorld (config : Config) (name : String) (units : List BuildUnit) : World :=
  (inheritedWorld config name units).advance (synthesize config)

theorem dispatchedWorld_failure?_eq_none_iff (hids : (units.map (·.id)).Nodup)
    (hscan : Scannable config units) :
    (dispatchedWorld config name units).failure? = none ↔
      ∀ u ∈ units, Dispatchable config (inheritedState config units u) := by
  simp only [dispatchedWorld, World.failure?_advance_eq_none_iff,
    units_inheritedWorld hids hscan, List.forall_mem_map,
    fault_unitAfter_synthesize_eq_none_iff inheritedState_phase inheritedState_fault]

theorem units_dispatchedWorld (hids : (units.map (·.id)).Nodup) (hscan : Scannable config units)
    (hdispatch : ∀ u ∈ units, Dispatchable config (inheritedState config units u)) :
    (dispatchedWorld config name units).units = units.map (finalState config units) := by
  simp only [dispatchedWorld, World.advance, units_inheritedWorld hids hscan, List.map_map]
  refine List.map_congr_left fun u hu => ?_
  exact unitAfter_synthesize_of_dispatchable inheritedState_phase (hdispatch u hu)

private theorem session_advance (h : ∀ s x, sessionAfter step s x = s) (w : World) :
    (w.advance step).session = w.session := by
  refine List.foldlRecOn (motive := (· = w.session)) w.units (sessionAfter step) rfl ?_
  intro s hs x _
  rw [h, hs]

theorem session_dispatchedWorld :
    (dispatchedWorld config name units).session = (scannedWorld config name units).session := by
  rw [dispatchedWorld, session_advance fun _ _ => sessionAfter_synthesize, inheritedWorld,
    session_advance fun _ _ => sessionAfter_merge]

theorem outcome_full_failure?_eq_none_iff :
    (outcome config .full { name := name } units).failure? = none ↔
      (scannedWorld config name units).failure? = none ∧
        (inheritedWorld config name units).failure? = none ∧
          (dispatchedWorld config name units).failure? = none := by
  rw [outcome, stepsTo, World.failure?_through_cons, World.failure?_through_cons,
    World.failure?_through_cons, ← scannedWorld, ← inheritedWorld, ← dispatchedWorld,
    World.through, and_self]

theorem outcome_full_of_scannable (hids : (units.map (·.id)).Nodup)
    (hscan : Scannable config units) :
    outcome config .full { name := name } units = dispatchedWorld config name units := by
  have hscanned : (scannedWorld config name units).failure? = none :=
    scannedWorld_failure?_eq_none_iff.mpr hscan
  have hinherited : (inheritedWorld config name units).failure? = none :=
    inheritedWorld_failure? hids hscan
  rw [outcome, stepsTo, World.through_cons hscanned, ← scannedWorld,
    World.through_cons hinherited, ← inheritedWorld]
  simp only [World.through, dispatchedWorld, ite_self]

/-! ### Whole deployments -/

/-- **When a scan-only deployment ends well, and what it reports.** -/
theorem resultOf_scanOnly_eq_ok_iff :
    resultOf config .scanOnly { name := name } units = .ok r ↔
      (units.map (·.id)).Nodup ∧ Scannable config units ∧
        r = ⟨name, units.map fun u => .ofState (scannedState config units u)⟩ := by
  have houtcome : outcome config .scanOnly { name := name } units =
      scannedWorld config name units := by
    rw [outcome, stepsTo, World.through, ← scannedWorld, World.through, ite_self]
  rw [resultOf_eq_ok_iff, houtcome, scannedWorld_failure?_eq_none_iff]
  simp only [true_and]
  refine and_congr_right fun _ => and_congr_right fun hscan => ?_
  rw [units_scannedWorld hscan, name_scannedWorld, List.map_map]
  rfl

/-- **When a full deployment ends well, and what it reports.** -/
theorem resultOf_full_eq_ok_iff :
    resultOf config .full { name := name } units = .ok r ↔
      (units.map (·.id)).Nodup ∧ Scannable config units ∧
        (∀ u ∈ units, Dispatchable config (inheritedState config units u)) ∧
        r = ⟨name, units.map fun u => .ofState (finalState config units u)⟩ := by
  rw [resultOf_eq_ok_iff]
  constructor
  · rintro ⟨-, hids, hnone, rfl⟩
    obtain ⟨hscan, -, hdispatch⟩ := outcome_full_failure?_eq_none_iff.mp hnone
    rw [scannedWorld_failure?_eq_none_iff] at hscan
    rw [dispatchedWorld_failure?_eq_none_iff hids hscan] at hdispatch
    refine ⟨hids, hscan, hdispatch, ?_⟩
    rw [outcome_full_of_scannable hids hscan, units_dispatchedWorld hids hscan hdispatch,
      session_dispatchedWorld, name_scannedWorld, List.map_map]
    rfl
  · rintro ⟨hids, hscan, hdispatch, rfl⟩
    -- inheriting cannot fail, so only scans and registrations have to be asked
    have hnone : (outcome config .full { name := name } units).failure? = none := by
      rw [outcome_full_failure?_eq_none_iff, scannedWorld_failure?_eq_none_iff,
        dispatchedWorld_failure?_eq_none_iff hids hscan]
      exact ⟨hscan, inheritedWorld_failure? hids hscan, hdispatch⟩
    refine ⟨rfl, hids, hnone, ?_⟩
    rw [outcome_full_of_scannable hids hscan, units_dispatchedWorld hids hscan hdispatch,
      session_dispatchedWorld, name_scannedWorld, List.map_map]
    rfl

theorem survey_eq_error_of_scannedWorld {failure : Failure}
    (h : (scannedWorld config name units).failure? = some failure) :
    ∃ u ∈ units, failure.unit = some u.id ∧
      (survey config (indexesOf units) u).metadata = .error failure.fault := by
  obtain ⟨x, hx, hfault, hunit⟩ := World.exists_of_failure? h
  rw [scannedWorld, World.advance, World.start, List.map_map] at hx
  obtain ⟨u, hu, rfl⟩ := List.mem_map.mp hx
  rw [Function.comp_apply] at hfault hunit
  refine ⟨u, hu, ?_, ?_⟩
  · rw [hunit, (isolated_scan config _).id_eq]
    rfl
  · cases hv : (survey config (indexesOf units) u).metadata with
    | error fault =>
        rw [unitAfter_scan_of_error hv, Option.some.injEq] at hfault
        rw [hfault]
    | ok m =>
        rw [unitAfter_scan_of_ok hv] at hfault
        cases hfault

theorem registration_eq_error_of_dispatchedWorld {failure : Failure}
    (hids : (units.map (·.id)).Nodup) (hscan : Scannable config units)
    (h : (dispatchedWorld config name units).failure? = some failure) :
    ∃ u ∈ units, failure.unit = some u.id ∧
      ∃ web, (inheritedState config units u).unit.descriptor = some web ∧
        (registrationOf config (inheritedState config units u) web).result =
          .error failure.fault := by
  obtain ⟨x, hx, hfault, hunit⟩ := World.exists_of_failure? h
  rw [dispatchedWorld, World.advance, units_inheritedWorld hids hscan, List.map_map] at hx
  obtain ⟨u, hu, rfl⟩ := List.mem_map.mp hx
  rw [Function.comp_apply] at hfault hunit
  refine ⟨u, hu, ?_, ?_⟩
  · rw [hunit, (isolated_synthesize config).id_eq, inheritedState_unit, survey_unit]
  · rw [unitAfter_synthesize inheritedState_phase] at hfault
    cases hweb : (inheritedState config units u).unit.descriptor with
    | none => simp [hweb] at hfault
    | some web =>
        refine ⟨web, rfl, ?_⟩
        cases hresult : (registrationOf config (inheritedState config units u) web).result with
        | error fault => simpa [hweb, hresult] using hfault
        | ok registration => simp [hweb, hresult, UnitState.registered] at hfault

/-- A unit fails in its scan or, if all scans went well, where its dispatchers are set up. -/
theorem exists_unit_of_resultOf_full_eq_error {failure : Failure} (hids : (units.map (·.id)).Nodup)
    (h : resultOf config .full { name := name } units = .error failure) :
    ∃ u ∈ units, failure.unit = some u.id ∧
      ((survey config (indexesOf units) u).metadata = .error failure.fault ∨
        Scannable config units ∧
          ∃ web, (inheritedState config units u).unit.descriptor = some web ∧
            (registrationOf config (inheritedState config units u) web).result =
              .error failure.fault) := by
  have hfailure := (resultOf_eq_error_iff rfl hids).mp h
  by_cases hscan : Scannable config units
  · rw [outcome_full_of_scannable hids hscan] at hfailure
    obtain ⟨u, hu, hunit, hresult⟩ := registration_eq_error_of_dispatchedWorld hids hscan hfailure
    exact ⟨u, hu, hunit, .inr ⟨hscan, hresult⟩⟩
  · -- the deployment ended with the first phase
    have hscanned : (scannedWorld config name units).failure? ≠ none :=
      fun hnone => hscan (scannedWorld_failure?_eq_none_iff.mp hnone)
    rw [outcome, stepsTo, World.through, ← scannedWorld,
      if_pos (Option.isSome_iff_ne_none.mpr hscanned)] at hfailure
    obtain ⟨u, hu, hunit, hsurvey⟩ := survey_eq_error_of_scannedWorld hfailure
    exact ⟨u, hu, hunit, .inl hsurvey⟩

/-- A full deployment ends well only if the scan-only deployment does. -/
theorem resultOf_scanOnly_of_full (h : resultOf config .full { name := name } units = .ok r) :
    resultOf config .scanOnly { name := name } units =
      .ok ⟨name, units.map fun u => .ofState (scannedState config units u)⟩ := by
  obtain ⟨hids, hscan, -, -⟩ := resultOf_full_eq_ok_iff.mp h
  exact resultOf_scanOnly_eq_ok_iff.mpr ⟨hids, hscan, rfl⟩

/-! ### Looking units up -/

/-- Looking up a report by id, where reports are made from states that keep the ids
of their units. -/
theorem unit?_map {state : BuildUnit → UnitState} (hstate : ∀ u, (state u).unit.id = u.id)
    (id : String) :
    Report.unit? ⟨name, units.map fun u => .ofState (state u)⟩ id =
      (units.find? fun u => u.id == id).map fun u => .ofState (state u) := by
  have hmap : (units.map fun u => UnitReport.ofState (state u)) =
      (units.map state).map UnitReport.ofState := by rw [List.map_map]; rfl
  rw [hmap, unit?_map_ofState, List.find?_map, Option.map_map]
  simp only [Function.comp_def, hstate]

@[simp] theorem scannedState_unit_id : (scannedState config units u).unit.id = u.id := by
  simp only [scannedState, survey_unit]

@[simp] theorem finalState_unit_id : (finalState config units u).unit.id = u.id := by
  have hid : (inheritedState config units u).unit.id = u.id := by
    rw [inheritedState_unit, survey_unit]
  unfold finalState dispatched
  split <;> exact hid

theorem published_of_mem (hids : (units.map (·.id)).Nodup) (hu : u ∈ units) {m : Metadata}
    (h : (survey config (indexesOf units) u).metadata = .ok m) :
    published config units u.id = some m := by
  rw [published, find?_of_mem (f := BuildUnit.id) hids hu, Option.bind_some, h]
  rfl

theorem exists_of_published {id : String} {m : Metadata}
    (h : published config units id = some m) :
    ∃ u ∈ units, u.id = id ∧ (survey config (indexesOf units) u).metadata = .ok m := by
  obtain ⟨u, hu, hm⟩ := Option.bind_eq_some_iff.mp h
  refine ⟨u, List.mem_of_find?_eq_some hu, by simpa using List.find?_some hu, ?_⟩
  cases hv : (survey config (indexesOf units) u).metadata with
  | error fault => simp [hv, Except.toOption] at hm
  | ok m' => simpa [hv, Except.toOption] using hm

end RestDeployment.Deployment
