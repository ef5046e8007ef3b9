import RestDeployment.Deployment.UnitState

/-!
# Setting up dispatchers

The last step of a unit.  A web application gets the dispatcher servlets that its
metadata calls for.
-/

namespace RestDeployment.Deployment

/-- Registers the dispatcher servlets of a web application. -/
def synthesize (config : Config) : UnitStep := requiring .merged fun l =>
  match l.unit.unit.descriptor with
  | none => moveTo .synthesized l []
  | some web =>
    let registered := Registration.register config l.unit.unit.loader ⟨l.unit.metadata, web⟩
    let unit := { l.unit with
      unit := { l.unit.unit with descriptor := some registered.state.descriptor }
      metadata := registered.state.metadata
      findings := l.unit.findings ++ Note.findings registered.notes }
    match registered.result with
    | .error fault =>
      { result := .error fault, state := { l with unit := unit }, notes := registered.notes }
    | .ok registration =>
      moveTo .synthesized { l with unit := { unit with registration := some registration } }
        registered.notes

end RestDeployment.Deployment
