import RestDeployment.Deployment.Report
import RestDeployment.Text.Table

/-!
# Summaries

What the commands print for people to read: a table with a row for every unit and
its findings below, or a table with a row for every classified class.
-/

namespace RestDeployment.CommandLine

open Deployment (Report UnitReport)

namespace Summary

/-! ### Colours -/

/-- A text in the colour of warnings. -/
def yellow (text : String) : String := "\x1b[33m" ++ text ++ "\x1b[0m"

/-- A text in the colour of success. -/
def boldGreen (text : String) : String := "\x1b[1;32m" ++ text ++ "\x1b[0m"

/-! ### Deployments -/

/-- The outcome of a registration in a few words. -/
def servlets : Option Registration → String
  | none => "-"
  | some (.skipped .dispatcherCreated) => "skipped (DispatcherCreated)"
  | some (.skipped .bootClasses) => "skipped (BootClasses)"
  | some (.defaultServlet true) => "default"
  | some (.defaultServlet false) => "default (existing)"
  | some (.applicationServlets names _) => String.intercalate ", " names

/-- The row of a unit. -/
def unitRow (u : UnitReport) : List String :=
  [u.id, toString u.metadata.applications.size, toString u.metadata.resources.size,
    toString u.metadata.providers.size, toString u.metadata.jndiResources.size,
    servlets u.registration, toString u.findings.length]

/-- The table of units. -/
def unitTable (r : Report) : Text.Table where
  header := ["Unit", "Apps", "Resources", "Providers", "JNDI", "Servlets", "Warnings"]
  rows := r.units.map unitRow

/-- The lines of a unit's findings. -/
def findingLines (u : UnitReport) : List String :=
  u.findings.map fun f =>
    yellow "warning" ++ " " ++ u.id ++ ": " ++ f.message ++ " (" ++ f.subject ++ ")"

/-- The summary of a deployment. -/
def deployment (r : Report) : String :=
  let last := boldGreen "deployed" ++ " " ++ r.deployment ++ " (" ++ toString r.findingCount ++
    " warnings)"
  String.join (([(unitTable r).render] ++ r.units.flatMap findingLines ++ [last]).map (· ++ "\n"))

/-! ### Classifications -/

/-- A class with the role it plays in a unit. -/
structure ClassRow where
  unit : String
  className : String
  role : String
deriving DecidableEq

/-- The role of an application. -/
def applicationRole (a : Application) : String :=
  match a.path with
  | some path => "application (" ++ path ++ ")"
  | none => "application"

/-- The role of a resource of a unit. -/
def resourceRole (m : Metadata) (name : String) : String :=
  if name ∈ m.jndiResources then "resource (jndi)" else "resource"

/-- The rows of a unit: its applications, then its resources, then its providers. -/
def classRows (u : UnitReport) : List ClassRow :=
  u.metadata.applications.values.map (fun a => ⟨u.id, a.name, applicationRole a⟩) ++
    u.metadata.resources.toList.map (fun n => ⟨u.id, n, resourceRole u.metadata n⟩) ++
    u.metadata.providers.toList.map (fun n => ⟨u.id, n, "provider"⟩)

/-- The rows of all units, or of the units with one id. -/
def rows (r : Report) (only : Option String) : List ClassRow :=
  (r.units.filter fun u => only.all fun id => u.id == id).flatMap classRows

/-- The table of classified classes. -/
def classTable (rows : List ClassRow) : Text.Table where
  header := ["Unit", "Class", "Role"]
  rows := rows.map fun row => [row.unit, row.className, row.role]

/-- The list of classified classes. -/
def classification (r : Report) (only : Option String) : String :=
  match rows r only with
  | [] => "No classified classes found.\n"
  | rows => (classTable rows).render ++ "\n"

end Summary

end RestDeployment.CommandLine
