import RestDeployment.Metadata
import RestDeployment.Fault
import RestDeployment.WebDescriptor

/-!
# Resolving the scan policy

Three flags say what is scanned.  Each goes by two names, a short one and that of
a context parameter.  Assigned values are read first, and a value that is neither
true nor false is a fault even where scanning is off anyway.  Of several
assignments to a flag the last counts; a flag without assignment gets its value
from what is known about the unit.
-/

namespace RestDeployment

/-- A switch of the scan policy. -/
inductive ScanFlag where
  | all
  | providers
  | resources
deriving DecidableEq

namespace ScanFlag

/-- The flag of a short name or of the name of a context parameter. -/
def ofName? : String → Option ScanFlag
  | "scan-all" => some .all
  | "jaxrs.scan" => some .all
  | "scan-providers" => some .providers
  | "jaxrs.scan.providers" => some .providers
  | "scan-resources" => some .resources
  | "jaxrs.scan.resources" => some .resources
  | _ => none

/-- The value that a text assigns: `true` or `false`, in any mixture of ASCII case. -/
def valueOf? (text : String) : Option Bool :=
  match text.map Char.toLower with
  | "true" => some true
  | "false" => some false
  | _ => none

/-- Reads the value assigned to a parameter. -/
def parse (param : String) (value : Option String) : Except Fault Bool :=
  match value.bind valueOf? with
  | some b => .ok b
  | none => .error (.invalidValue param value)

/-- Reads the assignments to flags, in order; other names are passed over. -/
def assignments : List (String × Option String) → Except Fault (List (ScanFlag × Bool))
  | [] => .ok []
  | (name, value) :: rest =>
    match ofName? name with
    | none => assignments rest
    | some flag => do
      let b ← parse name value
      return (flag, b) :: (← assignments rest)

/-- The value last assigned to a flag. -/
def lastAssigned (flag : ScanFlag) (values : List (ScanFlag × Bool)) : Option Bool :=
  ((values.filter fun v => v.1 == flag).map Prod.snd).getLast?

end ScanFlag

namespace ScanPolicy

/-- The policy of flags that were assigned these values.  Boot classes turn all
of them off.  Otherwise a unit with incomplete metadata is scanned by default, and
scanning everything implies scanning for providers and resources. -/
def ofFlags (hasBootClasses metadataComplete : Bool) (values : List (ScanFlag × Bool)) :
    ScanPolicy :=
  if hasBootClasses then { hasBootClasses := true }
  else
    let all := ScanFlag.lastAssigned .all values
    let implied := !metadataComplete || all == some true
    { scanAll := all.getD !metadataComplete
      scanProviders := (ScanFlag.lastAssigned .providers values).getD implied
      scanResources := (ScanFlag.lastAssigned .resources values).getD implied
      hasBootClasses := false }

/-- The policy that assignments to flags lead to. -/
def resolve (hasBootClasses metadataComplete : Bool) (assigned : List (String × Option String)) :
    Except Fault ScanPolicy :=
  (ScanFlag.assignments assigned).map (ofFlags hasBootClasses metadataComplete)

/-- The policy of a unit with a descriptor, by its context parameters. -/
def ofDescriptor (web : WebDescriptor) (hasBootClasses : Bool) : Except Fault ScanPolicy :=
  resolve hasBootClasses web.metadataComplete (web.contextParams.map fun p => (p.name, p.value))

end ScanPolicy

end RestDeployment
