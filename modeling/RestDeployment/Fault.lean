import RestDeployment.Phase
import RestDeployment.Text.Quoted

/-!
# Faults

What can abort a deployment.  A fault is the cause; a failure is a fault together
with the unit it belongs to, if it belongs to one.  A failure names at most one
unit: naming a second one leaves the first.
-/

namespace RestDeployment

/-- Why a class could not be loaded. -/
inductive LoadError where
  | notFound (className : String)
deriving DecidableEq

namespace LoadError

/-- The error in words. -/
def message : LoadError → String
  | .notFound className => "class not found: " ++ className

/-- The class that was asked for. -/
def className : LoadError → String
  | .notFound className => className

end LoadError

/-- Why an operation does not fit the state it meets. -/
inductive Misuse where
  | sessionClosed (session : String)
  | duplicateUnit (unit : String)
  | unpublishable (unit : String)
  | invalidMove (source target : Phase)
  | unexpectedPhase (expected actual : Phase)
  | other (text : String)
deriving DecidableEq

namespace Misuse

/-- The misuse in words. -/
def message : Misuse → String
  | .sessionClosed session => "session " ++ session ++ " is already closed"
  | .duplicateUnit unit => "unit " ++ unit ++ " submitted twice"
  | .unpublishable unit => "metadata for unit " ++ unit ++ " could not be published"
  | .invalidMove source target =>
    "cannot move from " ++ source.describe ++ " to " ++ target.describe
  | .unexpectedPhase expected actual =>
    "expected phase " ++ expected.describe ++ ", unit is " ++ actual.describe
  | .other text => text

end Misuse

/-- A condition that aborts a deployment. -/
inductive Fault where
  | invalidValue (param : String) (value : Option String)
  | classNotFound (className : String)
  | conflictingDispatcher (servlet className : String)
  | illegalState (reason : Misuse)
deriving DecidableEq

namespace Fault

/-- The fault of a class that could not be loaded. -/
def ofLoadError (e : LoadError) : Fault := .classNotFound e.className

/-- The error that caused a fault, if there is one beneath it. -/
def cause? : Fault → Option LoadError
  | .classNotFound className => some (.notFound className)
  | _ => none

/-- The fault in words. -/
def message : Fault → String
  | .invalidValue param value =>
    "invalid value " ++ Text.quoteOption value ++ " for parameter " ++ param
  | .classNotFound className =>
    "cannot load class " ++ className ++ ": " ++ (LoadError.notFound className).message
  | .conflictingDispatcher servlet className =>
    "servlet " ++ servlet ++ " declares " ++ className ++
      ", which is not an allowed dispatcher class"
  | .illegalState reason => "illegal state: " ++ reason.message

end Fault

/-- A fault and the unit whose deployment it aborted, if it is known. -/
structure Failure where
  fault : Fault
  unit : Option String := none
deriving DecidableEq

namespace Failure

/-- The failure attributed to a unit, unless it is attributed to one already. -/
def inUnit (f : Failure) (id : String) : Failure := { f with unit := f.unit.or (some id) }

/-- The failure in words. -/
def message (f : Failure) : String :=
  match f.unit with
  | some id => "deployment of unit " ++ id ++ " failed: " ++ f.fault.message
  | none => f.fault.message

/-- What lies directly beneath the failure, in words. -/
def sourceMessage? (f : Failure) : Option String :=
  match f.unit with
  | some _ => some f.fault.message
  | none => f.fault.cause?.map LoadError.message

end Failure

end RestDeployment
