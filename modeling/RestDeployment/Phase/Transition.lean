import RestDeployment.Fault

/-!
# Moving from phase to phase

A unit moves to the phase that follows its own and to no other.
-/

namespace RestDeployment.Phase

/-- Moves to a phase, which must be the one that follows. -/
def advance (current target : Phase) : Except Fault Phase :=
  if current.next? = some target then .ok target
  else .error (.illegalState (.invalidMove current target))

/-- Checks that the current phase is the expected one. -/
def require (current expected : Phase) : Except Fault Unit :=
  if current = expected then .ok ()
  else .error (.illegalState (.unexpectedPhase expected current))

end RestDeployment.Phase
