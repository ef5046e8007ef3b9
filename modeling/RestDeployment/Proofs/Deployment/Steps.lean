import RestDeployment.Proofs.Deployment.Schedule
import RestDeployment.Proofs.Session

/-!
# What the steps of a unit do

For each of the three steps this file says what it makes of a unit and what it
writes into the session, and that the steps of different units do not disturb each
other (`isolated_scan`, `isolated_merge`, `isolated_synthesize`).

A scan is split in two.  `survey` is the part that looks at the unit alone; the
rest is the attempt to publish, which fails only if the session does not accept the
unit.  So a scan writes nothing but `offering` into the session, under the id of its
unit.  Merging only reads the session, and setting up dispatchers does not use it.
-/

namespace RestDeployment.Deployment

variable {config : Config} {indexes : Indexes} {s t : Session} {u : UnitState}

theorem require_of_eq {current expected : Phase} (h : current = expected) :
    current.require expected = .ok () := if_pos h

theorem requiring_of_phase {expected : Phase} {step : UnitStep} (h : u.phase = expected) :
    requiring expected step ⟨u, s⟩ = step ⟨u, s⟩ := by
  simp only [requiring, require_of_eq h]

/-- A unit in the wrong phase is stopped, and nothing else happens. -/
theorem requiring_of_phase_ne {expected : Phase} {step : UnitStep} (h : u.phase ≠ expected) :
    requiring expected step ⟨u, s⟩ =
      { result := .error (.illegalState (.unexpectedPhase expected u.phase))
        state := ⟨u, s⟩ } := by
  have hrequire : u.phase.require expected =
      .error (.illegalState (.unexpectedPhase expected u.phase)) := if_neg h
  simp only [requiring, hrequire]

theorem moveTo_of_next {target : Phase} {l : Local} {notes : List Note}
    (h : l.unit.phase.next? = some target) :
    moveTo target l notes =
      { result := .ok (), state := { l with unit := { l.unit with phase := target } },
        notes := notes } := by
  have hadvance : l.unit.phase.advance target = .ok target := if_pos h
  simp only [moveTo, hadvance]

/-! ### Scanning -/

/-- What the scan of a unit finds out before it publishes. -/
structure Survey where
  /-- The unit, with its descriptor as the scan leaves it. -/
  unit : BuildUnit
  findings : List Finding
  metadata : Except Fault Metadata

/-- What the classification of a unit reads. -/
def scanInput (u : BuildUnit) : ScanInput := ⟨u.index, u.loader, u.descriptor⟩

/-- The classification of a unit, from the metadata that its preparation settled. -/
def classified (config : Config) (indexes : Indexes) (u : BuildUnit) (start : Metadata) :
    Attempt Metadata Unit :=
  Classification.classify config (scanInput (prepare config indexes u).state) start

/-- The part of a scan that looks at the unit alone. -/
def survey (config : Config) (indexes : Indexes) (u : BuildUnit) : Survey :=
  let prepared := prepare config indexes u
  match prepared.result with
  | .error fault => ⟨prepared.state, [], .error fault⟩
  | .ok start =>
    let classified := classified config indexes u start
    { unit := prepared.state
      findings := Note.findings classified.notes
      metadata := classified.result.map fun () => classified.state }

/-- The descriptor of a unit after its inspection. -/
def inspectedDescriptor (config : Config) (indexes : Indexes) (u : BuildUnit) :
    Option WebDescriptor :=
  u.descriptor.map fun web => (Adoption.adopt config (hierarchyOf indexes u) u.loader web).state

theorem prepare_state (config : Config) (indexes : Indexes) (u : BuildUnit) :
    (prepare config indexes u).state =
      { u with descriptor := inspectedDescriptor config indexes u } := by
  obtain ⟨id, parent, index, loader, dependencies, descriptor⟩ := u
  cases descriptor with
  | none => rfl
  | some web =>
      simp only [prepare, inspectedDescriptor, Option.map_some]
      split <;> rfl

theorem survey_unit (config : Config) (indexes : Indexes) (u : BuildUnit) :
    (survey config indexes u).unit =
      { u with descriptor := inspectedDescriptor config indexes u } := by
  rw [← prepare_state]
  simp only [survey]
  split <;> rfl

/-- A survey goes well if the preparation and the classification do. -/
theorem survey_metadata_eq_ok_iff {u : BuildUnit} {m : Metadata} :
    (survey config indexes u).metadata = .ok m ↔
      ∃ start, (prepare config indexes u).result = .ok start ∧
        (classified config indexes u start).result = .ok () ∧
          (classified config indexes u start).state = m := by
  simp only [survey]
  cases hprepare : (prepare config indexes u).result with
  | error fault => simp
  | ok start =>
      cases hclassify : (classified config indexes u start).result with
      | error fault => simp [hclassify, Except.map]
      | ok done => simp [hclassify, Except.map]

/-- A survey fails with the fault of the preparation or of the classification. -/
theorem survey_metadata_eq_error_iff {u : BuildUnit} {fault : Fault} :
    (survey config indexes u).metadata = .error fault ↔
      (prepare config indexes u).result = .error fault ∨
        ∃ start, (prepare config indexes u).result = .ok start ∧
          (classified config indexes u start).result = .error fault := by
  simp only [survey]
  cases hprepare : (prepare config indexes u).result with
  | error fault => simp
  | ok start =>
      cases hclassify : (classified config indexes u start).result with
      | error fault => simp [hclassify, Except.map]
      | ok done => simp [hclassify, Except.map]

/-- A unit with what a survey found out about it. -/
def UnitState.surveyed (u : UnitState) (v : Survey) : UnitState :=
  { u with unit := v.unit, findings := u.findings ++ v.findings }

/-- What a unit offers to the session when it is scanned. -/
def offering (config : Config) (indexes : Indexes) (u : UnitState) : Option Metadata :=
  if u.phase = .notStarted then (survey config indexes u.unit).metadata.toOption else none

theorem publishScan_of_accepts (m : Metadata) (l : Local) (notes : List Note)
    (hphase : l.unit.phase = .notStarted) (h : l.session.accepts l.unit.unit.id = true) :
    (publishScan m l notes).result = .ok () ∧
      (publishScan m l notes).state =
        ⟨{ l.unit with metadata := m, phase := .classified },
          l.session.offer l.unit.unit.id (some m)⟩ := by
  have hvalue := Session.publish_value l.session l.unit.unit.id m
  rw [h, if_pos rfl] at hvalue
  simp only [publishScan, hvalue, if_true, Session.offer]
  rw [moveTo_of_next (by rw [hphase]; rfl)]
  exact ⟨rfl, rfl⟩

theorem publishScan_of_not_accepts (m : Metadata) (l : Local) (notes : List Note)
    (h : l.session.accepts l.unit.unit.id = false) :
    (publishScan m l notes).result = .error (.illegalState (.unpublishable l.unit.unit.id)) ∧
      (publishScan m l notes).state =
        ⟨l.unit, l.session.offer l.unit.unit.id (some m)⟩ := by
  have hvalue := Session.publish_value l.session l.unit.unit.id m
  rw [h, if_neg Bool.false_ne_true] at hvalue
  simp [publishScan, hvalue, Session.offer]

theorem scan_of_survey_error {fault : Fault} (hphase : u.phase = .notStarted)
    (hv : (survey config indexes u.unit).metadata = .error fault) :
    (scan config indexes ⟨u, s⟩).result = .error fault ∧
      (scan config indexes ⟨u, s⟩).state = ⟨u.surveyed (survey config indexes u.unit), s⟩ := by
  unfold scan
  rw [requiring_of_phase hphase]
  rcases survey_metadata_eq_error_iff.mp hv with hprepare | ⟨start, hprepare, hclassify⟩
  · simp [hprepare, survey, UnitState.surveyed]
  · unfold classified scanInput at hclassify
    simp [hprepare, hclassify, survey, classified, scanInput, UnitState.surveyed]

theorem scan_of_survey_ok {m : Metadata} (hphase : u.phase = .notStarted)
    (hv : (survey config indexes u.unit).metadata = .ok m) :
    ∃ notes, scan config indexes ⟨u, s⟩ =
      publishScan m ⟨u.surveyed (survey config indexes u.unit), s⟩ notes := by
  obtain ⟨start, hprepare, hclassify, rfl⟩ := survey_metadata_eq_ok_iff.mp hv
  unfold classified scanInput at hclassify
  unfold scan
  rw [requiring_of_phase hphase]
  simp only [hprepare, hclassify, survey, classified, scanInput, UnitState.surveyed]
  exact ⟨_, rfl⟩

/-- A scan is a survey that is published. -/
theorem unitAfter_scan (hphase : u.phase = .notStarted) :
    unitAfter (scan config indexes) s u =
      match (survey config indexes u.unit).metadata with
      | .error fault =>
        { u.surveyed (survey config indexes u.unit) with fault := some fault }
      | .ok m =>
        if s.accepts u.unit.id then
          { u.surveyed (survey config indexes u.unit) with metadata := m, phase := .classified }
        else
          { u.surveyed (survey config indexes u.unit) with
            fault := some (.illegalState (.unpublishable u.unit.id)) } := by
  have hid : (u.surveyed (survey config indexes u.unit)).unit.id = u.unit.id := by
    simp only [UnitState.surveyed, survey_unit]
  cases hv : (survey config indexes u.unit).metadata with
  | error fault =>
      obtain ⟨hresult, hstate⟩ := scan_of_survey_error (s := s) hphase hv
      simp only [unitAfter, hresult, hstate]
  | ok m =>
      obtain ⟨notes, hscan⟩ := scan_of_survey_ok (s := s) hphase hv
      cases haccepts : s.accepts u.unit.id with
      | true =>
          obtain ⟨hresult, hstate⟩ := publishScan_of_accepts m
            ⟨u.surveyed (survey config indexes u.unit), s⟩ notes hphase (by rw [hid, haccepts])
          simp only [unitAfter, hscan, hresult, hstate, if_true]
      | false =>
          obtain ⟨hresult, hstate⟩ := publishScan_of_not_accepts m
            ⟨u.surveyed (survey config indexes u.unit), s⟩ notes (by rw [hid, haccepts])
          simp only [unitAfter, hscan, hresult, hstate, hid, Bool.false_eq_true, if_false]

/-- All that a scan writes into the session is what its unit offers. -/
theorem sessionAfter_scan :
    sessionAfter (scan config indexes) s u =
      s.offer u.unit.id (offering config indexes u) := by
  unfold offering
  by_cases hphase : u.phase = .notStarted
  · have hid : (u.surveyed (survey config indexes u.unit)).unit.id = u.unit.id := by
      simp only [UnitState.surveyed, survey_unit]
    rw [if_pos hphase]
    cases hv : (survey config indexes u.unit).metadata with
    | error fault => simp only [sessionAfter, (scan_of_survey_error hphase hv).2]; rfl
    | ok m =>
        obtain ⟨notes, hscan⟩ := scan_of_survey_ok (s := s) hphase hv
        rw [sessionAfter, hscan, ← hid]
        cases haccepts : s.accepts u.unit.id with
        | true => rw [(publishScan_of_accepts _ _ _ hphase (by rw [hid, haccepts])).2]; rfl
        | false => rw [(publishScan_of_not_accepts _ _ _ (by rw [hid, haccepts])).2]; rfl
  · simp only [sessionAfter, scan, requiring_of_phase_ne hphase, if_neg hphase]
    rfl

/-- Of the session a scan sees only whether it accepts the unit. -/
theorem unitAfter_scan_congr (h : s.accepts u.unit.id = t.accepts u.unit.id) :
    unitAfter (scan config indexes) s u = unitAfter (scan config indexes) t u := by
  by_cases hphase : u.phase = .notStarted
  · rw [unitAfter_scan hphase, unitAfter_scan hphase, h]
  · simp only [unitAfter, scan, requiring_of_phase_ne hphase]

theorem isolated_scan (config : Config) (indexes : Indexes) : Isolated (scan config indexes) where
  id_eq s u := by
    by_cases hphase : u.phase = .notStarted
    · have hid : (u.surveyed (survey config indexes u.unit)).unit.id = u.unit.id := by
        simp only [UnitState.surveyed, survey_unit]
      rw [unitAfter_scan hphase]
      split
      · exact hid
      · split <;> exact hid
    · simp only [unitAfter, scan, requiring_of_phase_ne hphase]
  unseen s u v h := by
    refine unitAfter_scan_congr ?_
    rw [sessionAfter_scan, Session.accepts_offer_of_ne h]
  comm s u v h := by
    simp only [sessionAfter_scan]
    exact Session.offer_comm h _ _

/-! ### Merging -/

theorem inherit_unit (s : Session) (u : UnitState) : (inherit s u).value.unit = u.unit := by
  unfold inherit
  split <;> rfl

theorem inherit_phase (s : Session) (u : UnitState) : (inherit s u).value.phase = u.phase := by
  unfold inherit
  split <;> rfl

theorem merge_of_phase (hphase : u.phase = .classified) :
    (merge ⟨u, s⟩).result = .ok () ∧
      (merge ⟨u, s⟩).state = ⟨{ (inherit s u).value with phase := .merged }, s⟩ := by
  unfold merge
  rw [requiring_of_phase hphase]
  have hnext : (inherit s u).value.phase.next? = some .merged := by rw [inherit_phase, hphase]; rfl
  simp only [moveTo_of_next (l := ⟨(inherit s u).value, s⟩) hnext, and_self]

theorem unitAfter_merge (hphase : u.phase = .classified) :
    unitAfter merge s u = { (inherit s u).value with phase := .merged } := by
  obtain ⟨hresult, hstate⟩ := merge_of_phase (s := s) hphase
  simp only [unitAfter, hresult, hstate]

/-- Merging only reads the session. -/
theorem sessionAfter_merge : sessionAfter merge s u = s := by
  by_cases hphase : u.phase = .classified
  · rw [sessionAfter, (merge_of_phase hphase).2]
  · simp only [sessionAfter, merge, requiring_of_phase_ne hphase]

theorem isolated_merge : Isolated merge := by
  refine .of_session_eq (fun s u => ?_) fun s u => sessionAfter_merge
  by_cases hphase : u.phase = .classified
  · simp only [unitAfter_merge hphase, inherit_unit]
  · simp only [unitAfter, merge, requiring_of_phase_ne hphase]

/-! ### Setting up dispatchers -/

/-- A unit with the descriptor, the metadata and the findings of a registration. -/
def UnitState.registered (u : UnitState) (r : Attempt Registration.WebState Registration) :
    UnitState :=
  { u with
    unit := { u.unit with descriptor := some r.state.descriptor }
    metadata := r.state.metadata
    findings := u.findings ++ Note.findings r.notes }

/-- The registration for a unit with a descriptor. -/
def registrationOf (config : Config) (u : UnitState) (web : WebDescriptor) :
    Attempt Registration.WebState Registration :=
  Registration.register config u.unit.loader ⟨u.metadata, web⟩

theorem synthesize_of_library (config : Config) (hphase : u.phase = .merged)
    (hweb : u.unit.descriptor = none) :
    (synthesize config ⟨u, s⟩).result = .ok () ∧
      (synthesize config ⟨u, s⟩).state = ⟨{ u with phase := .synthesized }, s⟩ := by
  have hnext : u.phase.next? = some .synthesized := by rw [hphase]; rfl
  unfold synthesize
  rw [requiring_of_phase hphase]
  simp only [hweb, moveTo_of_next (l := ⟨u, s⟩) hnext, and_self]

theorem synthesize_of_web_error {web : WebDescriptor} {fault : Fault} (hphase : u.phase = .merged)
    (hweb : u.unit.descriptor = some web)
    (hresult : (registrationOf config u web).result = .error fault) :
    (synthesize config ⟨u, s⟩).result = .error fault ∧
      (synthesize config ⟨u, s⟩).state = ⟨u.registered (registrationOf config u web), s⟩ := by
  unfold registrationOf at hresult
  unfold synthesize
  rw [requiring_of_phase hphase]
  simp only [hweb, hresult]
  exact ⟨trivial, rfl⟩

theorem synthesize_of_web_ok {web : WebDescriptor} {registration : Registration}
    (hphase : u.phase = .merged) (hweb : u.unit.descriptor = some web)
    (hresult : (registrationOf config u web).result = .ok registration) :
    (synthesize config ⟨u, s⟩).result = .ok () ∧
      (synthesize config ⟨u, s⟩).state =
        ⟨{ u.registered (registrationOf config u web) with
            registration := some registration
            phase := .synthesized }, s⟩ := by
  have hnext : u.phase.next? = some .synthesized := by rw [hphase]; rfl
  unfold registrationOf at hresult
  unfold synthesize
  rw [requiring_of_phase hphase]
  simp only [hweb, hresult, moveTo, Phase.advance, hnext, if_true]
  exact ⟨trivial, rfl⟩

/-- A unit without descriptor only changes its phase; in a web application a
registration has to succeed. -/
theorem unitAfter_synthesize (hphase : u.phase = .merged) :
    unitAfter (synthesize config) s u =
      match u.unit.descriptor with
      | none => { u with phase := .synthesized }
      | some web =>
        match (registrationOf config u web).result with
        | .error fault =>
          { u.registered (registrationOf config u web) with fault := some fault }
        | .ok registration =>
          { u.registered (registrationOf config u web) with
            registration := some registration
            phase := .synthesized } := by
  unfold unitAfter
  cases hweb : u.unit.descriptor with
  | none =>
      obtain ⟨hresult, hstate⟩ := synthesize_of_library config (s := s) hphase hweb
      simp only [hresult, hstate]
  | some web =>
      cases hr : (registrationOf config u web).result with
      | error fault =>
          obtain ⟨hresult, hstate⟩ := synthesize_of_web_error (s := s) hphase hweb hr
          simp only [hresult, hstate, hr]
      | ok registration =>
          obtain ⟨hresult, hstate⟩ := synthesize_of_web_ok (s := s) hphase hweb hr
          simp only [hresult, hstate, hr]

/-- Setting up dispatchers does not use the session. -/
theorem sessionAfter_synthesize : sessionAfter (synthesize config) s u = s := by
  unfold sessionAfter
  by_cases hphase : u.phase = .merged
  · cases hweb : u.unit.descriptor with
    | none => rw [(synthesize_of_library config hphase hweb).2]
    | some web =>
        cases hr : (registrationOf config u web).result with
        | error fault => rw [(synthesize_of_web_error hphase hweb hr).2]
        | ok registration => rw [(synthesize_of_web_ok hphase hweb hr).2]
  · rw [synthesize, requiring_of_phase_ne hphase]

theorem isolated_synthesize (config : Config) : Isolated (synthesize config) := by
  refine .of_session_eq (fun s u => ?_) fun s u => sessionAfter_synthesize
  by_cases hphase : u.phase = .merged
  · rw [unitAfter_synthesize hphase]
    split
    · rfl
    · split <;> rfl
  · simp only [unitAfter, synthesize, requiring_of_phase_ne hphase]

end RestDeployment.Deployment
