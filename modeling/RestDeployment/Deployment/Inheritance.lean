import RestDeployment.Deployment.UnitState

/-!
# Inheriting from dependencies

The second step of a unit.  A unit with a parent adds to its metadata what the
units it depends on published; what they inherited themselves is not published.
-/

namespace RestDeployment.Deployment

/-- The notes on the classes that a web application ends up with. -/
def integrationNotes (id : String) (m : Metadata) : List Note :=
  [("resource", m.resources), ("provider", m.providers),
    ("jndi component resource", m.jndiResources)].flatMap fun (label, classes) =>
    if classes.isEmpty then []
    else [.info (id ++ " " ++ label ++ " classes: " ++ String.intercalate "," classes.toList)]

/-- The findings on classes that a merge dropped. -/
def droppedFindings (r : MergeReport) : List Finding :=
  r.dropped.map fun name =>
    ⟨.classificationOverlap, name, "dropped after merging dependency metadata"⟩

/-- Lets a unit inherit what its dependencies published, if it has a parent. -/
def inherit (s : Session) (u : UnitState) : Traced UnitState :=
  if u.unit.parent.isSome then
    let merged := s.merge u.unit.id u.metadata u.unit.dependencies
    { value := { u with
        metadata := merged.value.1
        merge := some merged.value.2
        findings := u.findings ++ droppedFindings merged.value.2 }
      notes := merged.notes }
  else { value := u }

/-- Merges what the dependencies of a unit published into its metadata. -/
def merge : UnitStep := requiring .classified fun l =>
  let inherited := inherit l.session l.unit
  let unit := inherited.value
  let notes := if unit.unit.isWeb then integrationNotes unit.unit.id unit.metadata else []
  moveTo .merged { l with unit := unit } (inherited.notes ++ notes)

end RestDeployment.Deployment
