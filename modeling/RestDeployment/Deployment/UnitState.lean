import RestDeployment.BuildUnit
import RestDeployment.Phase.Transition
import RestDeployment.Registration
import RestDeployment.Session

/-!
# Units on their way

A deployment keeps, for every unit, the phase it has reached and what has been
found out about it so far.  In a phase every unit takes one step, which sees the
unit and the session and nothing else.
-/

namespace RestDeployment.Deployment

/-- A unit on its way through the phases. -/
structure UnitState where
  unit : BuildUnit
  phase : Phase := .notStarted
  metadata : Metadata := {}
  merge : Option MergeReport := none
  registration : Option Registration := none
  findings : List Finding := []
  /-- The fault that stopped the unit. -/
  fault : Option Fault := none

/-- A unit at the start of a deployment. -/
def UnitState.ofUnit (u : BuildUnit) : UnitState := { unit := u }

/-- A unit and the session it belongs to. -/
structure Local where
  unit : UnitState
  session : Session

/-- A step that one unit takes in a phase. -/
abbrev UnitStep := Local → Attempt Local Unit

/-- Moves a unit to the phase that a step ends with. -/
def moveTo (target : Phase) (l : Local) (notes : List Note) : Attempt Local Unit :=
  match l.unit.phase.advance target with
  | .error fault => { result := .error fault, state := l, notes := notes }
  | .ok phase =>
    { result := .ok (), state := { l with unit := { l.unit with phase := phase } }, notes := notes }

/-- Runs a step for a unit that is in the expected phase. -/
def requiring (expected : Phase) (step : UnitStep) : UnitStep := fun l =>
  match l.unit.phase.require expected with
  | .error fault => { result := .error fault, state := l }
  | .ok () => step l

end RestDeployment.Deployment
