import RestDeployment.Manifest
import RestDeployment.Proofs.Deployment.Outcome

/-!
# The life of a session

A session is used by operations: publishing and looking up, merging, completing,
rolling back, and whole deployments.  Through any sequence of them it is a table in
which every entry is written once, with a flag that is set once.

## Strategy

* A deployment is one operation, whatever happens in it.  No step of a unit closes the
  session (`Patient`), so the session is still open when the deployment ends, and every
  end closes it (`session_runAlong_of_open`).
* For a single operation, `closed_next` says when the session is closed afterwards and
  `lookup_next` what it answers while it is open.
* By induction on the history, `closed_after` and `lookup_after` say the same of
  sequences, where `firstAccepted` reads the first publication that was accepted off the
  answers that were given.
-/

namespace RestDeployment.Deployment

variable {config : Config} {extent : Extent} {schedules : Schedules} {s : Session}
  {units : List BuildUnit} {step : UnitStep} {id : String}

/-! ### A deployment as one operation -/

/-- A step that neither closes nor opens the session. -/
def Patient (step : UnitStep) : Prop := ∀ s u, (sessionAfter step s u).closed = s.closed

theorem patient_scan (config : Config) (indexes : Indexes) : Patient (scan config indexes) := by
  intro s u
  rw [sessionAfter_scan, Session.offer_closed]

theorem patient_merge : Patient merge := by
  intro s u
  rw [sessionAfter_merge]

theorem patient_synthesize (config : Config) : Patient (synthesize config) := by
  intro s u
  rw [sessionAfter_synthesize]

theorem patient_of_mem_stepsOf {phase : UnitStep × List Nat}
    (h : phase ∈ stepsOf config units schedules extent) : Patient phase.1 := by
  have hstep : phase.1 ∈ stepsTo config units extent := by
    rw [← map_fst_stepsOf schedules]
    exact List.mem_map_of_mem h
  exact of_mem_stepsTo (patient_scan config _) patient_merge (patient_synthesize config) hstep

theorem closed_runAt (hstep : Patient step) (w : Traced World) (i : Nat) :
    (runAt step w i).value.session.closed = w.value.session.closed := by
  cases hu : w.value.units[i]? with
  | none => simp only [runAt, hu]
  | some u => rw [runAt_value step hu, hstep]

theorem closed_runPhase (hstep : Patient step) (schedule : List Nat) (w : World) :
    (runPhase step schedule w).value.session.closed = w.session.closed := by
  have hstart : ({ value := w } : Traced World).value.session.closed = w.session.closed := rfl
  refine List.foldlRecOn (motive := fun x => x.value.session.closed = w.session.closed) schedule
    (runAt step) hstart ?_
  intro x hx i _
  rw [closed_runAt hstep, hx]

theorem closed_runSteps {phases : List (UnitStep × List Nat)}
    (hphases : ∀ phase ∈ phases, Patient phase.1) (w : World) :
    (runSteps phases w).value.session.closed = w.session.closed := by
  induction phases generalizing w with
  | nil => rfl
  | cons phase phases ih =>
      obtain ⟨step, schedule⟩ := phase
      have hphase := closed_runPhase (hphases (step, schedule) (by simp)) schedule w
      simp only [runSteps]
      split
      · exact hphase
      · rw [ih (fun phase h => hphases phase (List.mem_cons_of_mem _ h)), hphase]

theorem close_value_of_open (h : s.closed = false) (reason : String) :
    (s.close reason).value = { s with table := ∅, closed := true } := by
  simp [Session.close, h]

/-- However a deployment in an open session ends, it leaves the session closed and
empty. -/
theorem session_runAlong_of_open (h : s.closed = false) :
    (runAlong config extent schedules s units).session.closed = true ∧
      (runAlong config extent schedules s units).session.table = ∅ := by
  simp only [runAlong, h, Bool.false_eq_true, if_false, runPhases]
  cases repeatedId? [] (units.map (·.id)) with
  | some id => simp only [failed, Session.rollback, close_value_of_open h, and_self]
  | none =>
      have hopen : (runSteps (stepsOf config units schedules extent)
          ⟨units.map UnitState.ofUnit, s⟩).value.session.closed = false := by
        rw [closed_runSteps fun phase hphase => patient_of_mem_stepsOf hphase]
        exact h
      dsimp only
      split
      · simp only [failed, Session.rollback, close_value_of_open hopen, and_self]
      · simp only [succeeded, Session.complete, close_value_of_open hopen, and_self]

theorem runAlong_of_closed (h : s.closed = true) :
    (runAlong config extent schedules s units).result =
        .error ⟨.illegalState (.sessionClosed s.name), none⟩ ∧
      (runAlong config extent schedules s units).session = s := by
  simp only [runAlong, h, if_true, and_self]

/-! ### Operations -/

/-- What can be done with a session. -/
inductive Operation where
  | publish (unit : String) (m : Metadata)
  | lookup (unit : String)
  | merge (unit : String) (target : Metadata) (dependencies : List String)
  | complete
  | rollback
  | deploy (config : Config) (schedules : Schedules) (units : List BuildUnit)

/-- Whether an operation leaves the session closed. -/
def Operation.closes : Operation → Bool
  | .publish .. | .lookup _ | .merge .. => false
  | .complete | .rollback | .deploy .. => true

/-- What a session answers. -/
inductive Answer where
  | published (accepted : Bool)
  | found (m : Option Metadata)
  | merged (m : Metadata) (report : MergeReport)
  | closed
  | deployed (result : Except Failure Report)

/-- The answer of a session to an operation. -/
def answerTo (s : Session) : Operation → Answer
  | .publish unit m => .published (s.publish unit m).value.1
  | .lookup unit => .found (s.lookup unit)
  | .merge unit target dependencies =>
    .merged (s.merge unit target dependencies).value.1 (s.merge unit target dependencies).value.2
  | .complete => .closed
  | .rollback => .closed
  | .deploy config schedules units => .deployed (runAlong config .full schedules s units).result

/-- The session after an operation. -/
def next (s : Session) : Operation → Session
  | .publish unit m => (s.publish unit m).value.2
  | .lookup _ => s
  | .merge .. => s
  | .complete => s.complete.value
  | .rollback => s.rollback.value
  | .deploy config schedules units => (runAlong config .full schedules s units).session

/-- The session after a history of operations. -/
def after (s : Session) (history : List Operation) : Session := history.foldl next s

/-- The operations of a history with the answers that they were given. -/
def transcript (s : Session) : List Operation → List (Operation × Answer)
  | [] => []
  | op :: history => (op, answerTo s op) :: transcript (next s op) history

/-- The metadata of a unit that were published and accepted. -/
def accepted? (id : String) : Operation × Answer → Option Metadata
  | (.publish unit m, .published true) => if id = unit then some m else none
  | _ => none

/-- The metadata of a unit that were first accepted. -/
def firstAccepted (id : String) (entries : List (Operation × Answer)) : Option Metadata :=
  entries.findSome? (accepted? id)

/-! ### One operation -/

/-- A closed session is empty. -/
def EmptyIfClosed (s : Session) : Prop := s.closed = true → s.table = ∅

theorem publish_accepted_iff (s : Session) (unit : String) (m : Metadata) :
    (s.publish unit m).value.1 = true ↔ s.closed = false ∧ s.lookup unit = none := by
  rw [Session.publish_value]
  unfold Session.accepts
  cases s.closed <;> cases s.lookup unit <;> simp

theorem closed_next (s : Session) (op : Operation) :
    (next s op).closed = (s.closed || op.closes) := by
  have hclose : ∀ reason, (s.close reason).value.closed = true := by
    intro reason
    unfold Session.close
    split
    · next h => exact h
    · rfl
  cases op with
  | publish unit m =>
      have hoffer := Session.offer_closed s unit (some m)
      simpa [next, Operation.closes, Session.offer] using hoffer
  | lookup unit => simp [next, Operation.closes]
  | merge unit target dependencies => simp [next, Operation.closes]
  | complete => simpa [next, Operation.closes, Session.complete] using hclose "completed"
  | rollback => simpa [next, Operation.closes, Session.rollback] using hclose "rolled back"
  | deploy config schedules units =>
      cases hclosed : s.closed with
      | true => simp [next, Operation.closes, (runAlong_of_closed hclosed).2, hclosed]
      | false => simp [next, Operation.closes, (session_runAlong_of_open hclosed).1]

/-- Nothing happens to a closed session. -/
theorem next_of_closed (h : s.closed = true) (op : Operation) : next s op = s := by
  cases op with
  | publish unit m => exact Session.offer_of_closed h unit (some m)
  | lookup unit => rfl
  | merge unit target dependencies => rfl
  | complete => simp [next, Session.complete, Session.close, h]
  | rollback => simp [next, Session.rollback, Session.close, h]
  | deploy config schedules units => exact (runAlong_of_closed h).2

/-- An operation that closes an open session empties it. -/
theorem table_next_of_closes {op : Operation} (h : s.closed = false) (hop : op.closes = true) :
    (next s op).table = ∅ := by
  cases op with
  | publish unit m => simp [Operation.closes] at hop
  | lookup unit => simp [Operation.closes] at hop
  | merge unit target dependencies => simp [Operation.closes] at hop
  | complete => simp only [next, Session.complete, close_value_of_open h]
  | rollback => simp only [next, Session.rollback, close_value_of_open h]
  | deploy config schedules units => exact (session_runAlong_of_open h).2

theorem emptyIfClosed_next (hs : EmptyIfClosed s) (op : Operation) :
    EmptyIfClosed (next s op) := by
  intro hclosed
  cases h : s.closed with
  | true =>
      rw [next_of_closed h]
      exact hs h
  | false =>
      rw [closed_next, h, Bool.false_or] at hclosed
      exact table_next_of_closes h hclosed

/-- While a session is open it keeps its entries, and an operation adds the one that it
was told was accepted. -/
theorem lookup_next {op : Operation} (h : (next s op).closed = false) (id : String) :
    (next s op).lookup id = (s.lookup id).or (accepted? id (op, answerTo s op)) := by
  rw [closed_next, Bool.or_eq_false_iff] at h
  obtain ⟨hopen, hcloses⟩ := h
  cases op with
  | publish unit m =>
      have hlookup := Session.lookup_offer hopen unit (some m) id
      have hanswer := publish_accepted_iff s unit m
      simp only [Session.offer] at hlookup
      simp only [next, answerTo, hlookup]
      cases hvalue : (s.publish unit m).value.1 with
      | true => rfl
      | false =>
          -- the unit had an entry, so the offer changes nothing
          rw [hvalue] at hanswer
          by_cases hid : id = unit
          · subst hid
            cases hfound : s.lookup id with
            | none => simp [hopen, hfound] at hanswer
            | some former => simp
          · simp [accepted?, hid]
  | lookup unit => simp [next, accepted?]
  | merge unit target dependencies => simp [next, accepted?]
  | complete => simp [Operation.closes] at hcloses
  | rollback => simp [Operation.closes] at hcloses
  | deploy config schedules units => simp [Operation.closes] at hcloses

/-! ### Histories -/

theorem closed_after (s : Session) (history : List Operation) :
    (after s history).closed = (s.closed || history.any Operation.closes) := by
  induction history generalizing s with
  | nil => simp [after]
  | cons op history ih =>
      have hrest := ih (next s op)
      rw [closed_next, Bool.or_assoc] at hrest
      exact hrest

theorem after_of_closed (h : s.closed = true) (history : List Operation) :
    after s history = s := by
  induction history with
  | nil => rfl
  | cons op history ih =>
      rw [after, List.foldl_cons, next_of_closed h]
      exact ih

theorem emptyIfClosed_after (hs : EmptyIfClosed s) (history : List Operation) :
    EmptyIfClosed (after s history) := by
  refine List.foldlRecOn (motive := EmptyIfClosed) history next hs ?_
  intro s hs op _
  exact emptyIfClosed_next hs op

/-- A session that is still open answers for a unit what it had before or else what it
was told was first accepted. -/
theorem lookup_after {history : List Operation} (h : (after s history).closed = false)
    (id : String) :
    (after s history).lookup id =
      (s.lookup id).or (firstAccepted id (transcript s history)) := by
  induction history generalizing s with
  | nil => simp [after, transcript, firstAccepted]
  | cons op history ih =>
      have hrest : (after (next s op) history).closed = false := h
      have hnext : (next s op).closed = false := by
        rw [closed_after, Bool.or_eq_false_iff] at hrest
        exact hrest.1
      have hlookup := ih hrest
      rw [lookup_next hnext, Option.or_assoc] at hlookup
      rw [firstAccepted, transcript, List.findSome?_cons]
      change (after (next s op) history).lookup id = _
      rw [hlookup, firstAccepted]
      cases accepted? id (op, answerTo s op) <;> simp

/-! ### The main statement -/

/-- What is done with a session, one operation at a time: an open session accepts a
publication for a unit without entry and adds the entry, an operation that closes leaves
the session closed and empty, and nothing else changes anything. -/
structure WriteOnce (s : Session) : Prop where
  publish : ∀ unit m,
    if s.closed = false ∧ s.lookup unit = none then
      answerTo s (.publish unit m) = .published true ∧
        (next s (.publish unit m)).closed = false ∧
        ∀ id, (next s (.publish unit m)).lookup id = if id = unit then some m else s.lookup id
    else answerTo s (.publish unit m) = .published false ∧ next s (.publish unit m) = s
  lookup : ∀ unit,
    answerTo s (.lookup unit) = .found (s.lookup unit) ∧ next s (.lookup unit) = s
  merge : ∀ unit target dependencies, next s (.merge unit target dependencies) = s
  close : ∀ op : Operation, op.closes = true →
    (next s op).closed = true ∧ (next s op).table = ∅
  deploy_of_closed : s.closed = true → ∀ config schedules units,
    answerTo s (.deploy config schedules units) =
        .deployed (.error ⟨.illegalState (.sessionClosed s.name), none⟩) ∧
      next s (.deploy config schedules units) = s

theorem writeOnce_of_emptyIfClosed (hs : EmptyIfClosed s) : WriteOnce s where
  publish unit m := by
    have hvalue := Session.publish_value s unit m
    have haccepts : s.accepts unit = true ↔ s.closed = false ∧ s.lookup unit = none := by
      simp [Session.accepts]
    simp only [answerTo, next, ← haccepts, hvalue]
    split
    · next h => exact ⟨rfl, (haccepts.mp h).1, fun id => NameMap.get?_insert _ _ _ _⟩
    · exact ⟨rfl, rfl⟩
  lookup unit := ⟨rfl, rfl⟩
  merge unit target dependencies := rfl
  close op hop := by
    have hclosed : (next s op).closed = true := by rw [closed_next, hop, Bool.or_true]
    exact ⟨hclosed, emptyIfClosed_next hs op hclosed⟩
  deploy_of_closed hclosed config schedules units := by
    have hrun : (runAlong config .full schedules s units).result =
          .error ⟨.illegalState (.sessionClosed s.name), none⟩ ∧
        (runAlong config .full schedules s units).session = s := runAlong_of_closed hclosed
    exact ⟨by rw [answerTo, hrun.1], hrun.2⟩

/-- The session of a name after a history. -/
def reached (name : String) (history : List Operation) : Session :=
  after { name := name } history

/-- **A session is a write-once table that is closed once.**  After any history it is
closed exactly if some operation closed it, and then it is empty.  While it is open it
answers for a unit the metadata of which it first accepted the publication.  An entry
stays as it is until the session is closed, a closed session stays as it is for ever, and
whatever is done next is done as `WriteOnce` says. -/
theorem session_writeOnce (name : String) (history : List Operation) :
    (reached name history).closed = history.any Operation.closes ∧
      ((reached name history).closed = true → (reached name history).table = ∅) ∧
      ((reached name history).closed = false → ∀ id,
        (reached name history).lookup id =
          firstAccepted id (transcript { name := name } history)) ∧
      (∀ later id m, (reached name (history ++ later)).closed = false →
        (reached name history).lookup id = some m →
          (reached name (history ++ later)).lookup id = some m) ∧
      (∀ later, (reached name history).closed = true →
        reached name (history ++ later) = reached name history) ∧
      WriteOnce (reached name history) := by
  have hfresh : EmptyIfClosed { name := name } := fun _ => rfl
  have happend : ∀ later, reached name (history ++ later) = after (reached name history) later :=
    fun later => List.foldl_append
  refine ⟨?_, emptyIfClosed_after hfresh history, fun hopen id => ?_, fun later id m hopen hm => ?_,
    fun later hclosed => ?_, writeOnce_of_emptyIfClosed (emptyIfClosed_after hfresh history)⟩
  · rw [reached, closed_after, Bool.false_or]
  · have hnothing : ({ name := name } : Session).lookup id = none := rfl
    rw [reached, lookup_after hopen, hnothing, Option.none_or]
  · rw [happend] at hopen ⊢
    rw [lookup_after hopen, hm, Option.some_or]
  · rw [happend, after_of_closed hclosed]

/-- Two publications for one unit, and a look-up. -/
def contestedHistory : List Operation :=
  [.publish "lib" { resources := NameSet.ofList ["Items"] }, .publish "lib" {}, .lookup "lib"]

/-- The first publication counts.  A deployment of the same unit, which has published
already, fails, and the session is closed and empty after it. -/
theorem session_writeOnce_contestedHistory :
    let units := ({ deployment := "shop", units := [{ id := "lib" }] } : Manifest).build {}
    let deployment := Operation.deploy {} (inOrder units) units
    (reached "shop" contestedHistory).closed = false ∧
      (reached "shop" contestedHistory).lookup "lib" =
        some { resources := NameSet.ofList ["Items"] } ∧
      answerTo (reached "shop" contestedHistory) deployment =
        .deployed (.error ⟨.illegalState (.unpublishable "lib"), some "lib"⟩) ∧
      (reached "shop" (contestedHistory ++ [deployment])).closed = true ∧
      (reached "shop" (contestedHistory ++ [deployment])).table = ∅ := by
  intro units deployment
  obtain ⟨hclosed, -, hlookup, -, -, -⟩ := session_writeOnce "shop" contestedHistory
  obtain ⟨hclosed', hempty, -, -, -, -⟩ :=
    session_writeOnce "shop" (contestedHistory ++ [deployment])
  have hopen : (reached "shop" contestedHistory).closed = false := by rw [hclosed]; rfl
  have hdone : (reached "shop" (contestedHistory ++ [deployment])).closed = true := by
    rw [hclosed']; rfl
  have hresult :
      (runAlong {} .full (inOrder units) (reached "shop" contestedHistory) units).result =
      .error ⟨.illegalState (.unpublishable "lib"), some "lib"⟩ := by decide +kernel
  refine ⟨hopen, ?_, congrArg Answer.deployed hresult, hdone, hempty hdone⟩
  rw [hlookup hopen]
  decide +kernel

end RestDeployment.Deployment
