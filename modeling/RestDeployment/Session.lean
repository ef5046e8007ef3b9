import RestDeployment.Metadata.Merge
import RestDeployment.Note

/-!
# Sessions

The units of one deployment share a session, in which each publishes its metadata
once and reads what others published.  A session is open until its deployment
completes or is rolled back; closing it empties it for good.
-/

namespace RestDeployment

/-- The table of published metadata of a deployment. -/
structure Session where
  name : String
  table : NameMap Metadata := ∅
  closed : Bool := false

namespace Session

/-- The metadata that a unit published. -/
def lookup (s : Session) (unit : String) : Option Metadata := s.table.get? unit

/-- The number of units that published. -/
def size (s : Session) : Nat := s.table.size

/-- Publishes the metadata of a unit: an open session takes it if the unit has not
published before, and says whether it took it. -/
def publish (s : Session) (unit : String) (m : Metadata) : Traced (Bool × Session) :=
  if s.closed then
    { value := (false, s)
      notes := [.warn ("session " ++ s.name ++ " is closed, dropping metadata for " ++ unit)] }
  else if s.table.contains unit then
    { value := (false, s)
      notes := [.warn ("unit " ++ unit ++ " already published its metadata")] }
  else { value := (true, { s with table := s.table.insert unit m }) }

/-- Closes the session for a reason, unless it is closed. -/
def close (s : Session) (reason : String) : Traced Session :=
  if s.closed then { value := s }
  else
    { value := { s with table := ∅, closed := true }
      notes := [.debug ("session " ++ s.name ++ " " ++ reason ++ ", releasing " ++
        toString s.size ++ " entries")] }

/-- Closes the session after a deployment that succeeded. -/
def complete (s : Session) : Traced Session := s.close "completed"

/-- Closes the session after a deployment that failed. -/
def rollback (s : Session) : Traced Session := s.close "rolled back"

/-- Merges what the dependencies of a unit published into its metadata. -/
def merge (s : Session) (unit : String) (target : Metadata) (dependencies : List String) :
    Traced (Metadata × MergeReport) :=
  let merged := target.mergeAll s.lookup unit dependencies
  { value := merged
    notes := [.debug ("unit " ++ unit ++ " merged " ++ toString merged.2.merged.length ++
      " dependencies (" ++ toString merged.2.missing.length ++ " without metadata)")] }

end Session

end RestDeployment
