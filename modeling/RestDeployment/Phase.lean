/-!
# Phases of a unit

A unit is classified, then merged with what it depends on, then its dispatcher
servlets are synthesized.
-/

namespace RestDeployment

/-- How far the processing of a unit has come.  Phases only move forward. -/
inductive Phase where
  | notStarted
  | classified
  | merged
  | synthesized
deriving DecidableEq, Inhabited

namespace Phase

/-- The phase in words. -/
def describe : Phase → String
  | .notStarted => "not-started"
  | .classified => "classified"
  | .merged => "merged"
  | .synthesized => "synthesized"

/-- The number of phases before this one. -/
def rank : Phase → Nat
  | .notStarted => 0
  | .classified => 1
  | .merged => 2
  | .synthesized => 3

/-- Whether a phase has been reached. -/
def reached (current target : Phase) : Bool := target.rank ≤ current.rank

/-- The phase that follows. -/
def next? : Phase → Option Phase
  | .notStarted => some .classified
  | .classified => some .merged
  | .merged => some .synthesized
  | .synthesized => none

/-- The name of a phase. -/
def name : Phase → String
  | .notStarted => "not_started"
  | .classified => "classified"
  | .merged => "merged"
  | .synthesized => "synthesized"

/-- The phase of a name. -/
def ofName? : String → Option Phase
  | "not_started" => some .notStarted
  | "classified" => some .classified
  | "merged" => some .merged
  | "synthesized" => some .synthesized
  | _ => none

end Phase

end RestDeployment
