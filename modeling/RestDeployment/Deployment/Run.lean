import RestDeployment.Deployment.Report
import RestDeployment.Deployment.Scan
import RestDeployment.Deployment.Inheritance
import RestDeployment.Deployment.Dispatch

/-!
# Running a deployment

A deployment takes its units through its phases: every unit is scanned and
publishes its metadata, then every unit with a parent inherits what its
dependencies published, then dispatcher servlets are registered in every web
application.  A phase begins when the one before it has ended for all units, so
what a unit inherits does not depend on the order of the units.

Inside a phase the steps of the units may run in any order, so a phase is run
along a schedule, a list of positions; `inOrder` is the order of submission.  All
steps of a phase are run even if one fails.  The failure that is reported is that
of the first failing unit in the order of submission.
-/

namespace RestDeployment.Deployment

/-- All units of a deployment, in the order of submission, and their session. -/
structure World where
  units : List UnitState
  session : Session

/-- Runs a step for the unit at a position. -/
def runAt (step : UnitStep) (w : Traced World) (position : Nat) : Traced World :=
  match w.value.units[position]? with
  | none => w
  | some unit =>
    let done := step ⟨unit, w.value.session⟩
    let unit := match done.result with
      | .error fault => { done.state.unit with fault := some fault }
      | .ok () => done.state.unit
    { value := ⟨w.value.units.set position unit, done.state.session⟩
      notes := w.notes ++ done.notes }

/-- The failure of the first unit that was stopped. -/
def World.failure? (w : World) : Option Failure :=
  w.units.findSome? fun u => u.fault.map fun fault => Failure.inUnit ⟨fault, none⟩ u.unit.id

/-- Runs a step for the units along a schedule. -/
def runPhase (step : UnitStep) (schedule : List Nat) (w : World) : Traced World :=
  schedule.foldl (runAt step) { value := w }

/-- The orders in which the units are processed, one for each phase. -/
structure Schedules where
  scanning : List Nat
  merging : List Nat
  registering : List Nat

/-- Every phase in the order of submission. -/
def inOrder (units : List BuildUnit) : Schedules :=
  let positions := List.range units.length
  ⟨positions, positions, positions⟩

/-- How far a deployment goes. -/
inductive Extent where
  /-- Units are scanned and published only. -/
  | scanOnly
  | full
deriving DecidableEq

/-- The steps of a deployment, with the order in which units take them. -/
def stepsOf (config : Config) (units : List BuildUnit) (schedules : Schedules) :
    Extent → List (UnitStep × List Nat)
  | .scanOnly => [(scan config (indexesOf units), schedules.scanning)]
  | .full =>
    [(scan config (indexesOf units), schedules.scanning),
      (merge, schedules.merging),
      (synthesize config, schedules.registering)]

/-- Runs phases one after the other, up to the first in which a unit fails. -/
def runSteps : List (UnitStep × List Nat) → World → Traced World
  | [], w => { value := w }
  | (step, schedule) :: steps, w =>
    let done := runPhase step schedule w
    if done.value.failure?.isSome then done
    else
      let rest := runSteps steps done.value
      { rest with notes := done.notes ++ rest.notes }

/-! ### The whole run -/

/-- The id that is repeated first, where the ids in `seen` came before. -/
def repeatedId? (seen : List String) : List String → Option String
  | [] => none
  | id :: ids => if id ∈ seen then some id else repeatedId? (id :: seen) ids

/-- The result of a deployment, the session it leaves and the notes. -/
structure Run where
  result : Except Failure Report
  session : Session
  notes : List Note

/-- The run that stops with a failure; its session is rolled back. -/
def failed (failure : Failure) (session : Session) (notes : List Note) : Run :=
  let closed := session.rollback
  { result := .error failure
    session := closed.value
    notes := notes ++
      .warn ("deployment " ++ session.name ++ " failed: " ++ failure.message) :: closed.notes }

/-- The run that ends well; its session is completed. -/
def succeeded (w : World) (notes : List Note) : Run :=
  let closed := w.session.complete
  { result := .ok ⟨w.session.name, w.units.map UnitReport.ofState⟩
    session := closed.value
    notes := notes ++ closed.notes }

/-- The note on the start of a deployment. -/
def startNote (config : Config) (session : Session) (units : List BuildUnit) : Note :=
  .info ("deploying " ++ session.name ++ " with " ++ toString units.length ++
    " units (parallel: " ++ toString config.parallel ++ ")")

/-- Runs the phases of a deployment in an open session. -/
def runPhases (config : Config) (extent : Extent) (schedules : Schedules) (session : Session)
    (units : List BuildUnit) : Run :=
  match repeatedId? [] (units.map (·.id)) with
  | some id =>
    failed ⟨.illegalState (.duplicateUnit id), none⟩ session [startNote config session units]
  | none =>
    let start : World := ⟨units.map UnitState.ofUnit, session⟩
    let done := runSteps (stepsOf config units schedules extent) start
    let notes := startNote config session units :: done.notes
    match done.value.failure? with
    | some failure => failed failure done.value.session notes
    | none => succeeded done.value notes

/-- Deploys units in a session, the units of each phase along a schedule. -/
def runAlong (config : Config) (extent : Extent) (schedules : Schedules) (session : Session)
    (units : List BuildUnit) : Run :=
  if session.closed then
    { result := .error ⟨.illegalState (.sessionClosed session.name), none⟩
      session := session
      notes := [] }
  else runPhases config extent schedules session units

/-- Deploys units in a session. -/
def run (config : Config) (extent : Extent) (session : Session) (units : List BuildUnit) : Run :=
  runAlong config extent (inOrder units) session units

/-- Deploys units in a session of their own. -/
def runFresh (config : Config) (extent : Extent) (name : String) (units : List BuildUnit) : Run :=
  run config extent { name := name } units

end RestDeployment.Deployment
