import RestDeployment.Deployment.UnitState
import RestDeployment.Adoption
import RestDeployment.ScanPolicy.Resolve

/-!
# Scanning a unit

The first step of a unit.  If it is a web application its descriptor is inspected
and settles what is scanned.  Then its classes are classified, and the metadata is
published in the session.
-/

namespace RestDeployment.Deployment

/-- The indexes of submitted units. -/
abbrev Indexes := String → Option ClassIndex

/-- The index of the first unit with an id. -/
def indexesOf (units : List BuildUnit) : Indexes := fun id =>
  (units.find? fun u => u.id == id).map (·.index)

/-- Where the superclasses of a unit's declared classes are looked up: in its own
index and then in those of the submitted units it depends on. -/
def hierarchyOf (indexes : Indexes) (u : BuildUnit) : Hierarchy :=
  ⟨u.index :: u.dependencies.filterMap indexes⟩

/-- The metadata that the inspection of a descriptor starts from. -/
def inspectedMetadata (policy : ScanPolicy) (i : Inspection) : Metadata :=
  { Metadata.ofPolicy policy with
    dispatcherCreated := i.dispatcherCreated
    unwrappedExceptionsSet := i.unwrappedExceptionsSet }

/-- Prepares the scan of a unit: inspects the descriptor, if there is one, and
settles what is scanned. -/
def prepare (config : Config) (indexes : Indexes) (u : BuildUnit) : Attempt BuildUnit Metadata :=
  match u.descriptor with
  | none => { result := .ok (Metadata.ofPolicy .everything), state := u }
  | some web =>
    let adoption := Adoption.adopt config (hierarchyOf indexes u) u.loader web
    let adopted := { u with descriptor := some adoption.state }
    match adoption.result with
    | .error fault => { result := .error fault, state := adopted, notes := adoption.notes }
    | .ok inspection =>
      { result := (ScanPolicy.ofDescriptor adoption.state inspection.hasBootClasses).map fun p =>
          inspectedMetadata p inspection
        state := adopted
        notes := adoption.notes }

/-- The note on a classified unit. -/
def classifiedNote (id : String) (m : Metadata) : Note :=
  .debug ("unit " ++ id ++ " classified " ++ toString m.applications.size ++ " applications, " ++
    toString m.resources.size ++ " resources, " ++ toString m.providers.size ++ " providers")

/-- Publishes the metadata of a scanned unit and completes its scan. -/
def publishScan (m : Metadata) (l : Local) (notes : List Note) : Attempt Local Unit :=
  let published := l.session.publish l.unit.unit.id m
  let notes := notes ++ classifiedNote l.unit.unit.id m :: published.notes
  if published.value.1 then
    moveTo .classified
      { unit := { l.unit with metadata := m }, session := published.value.2 } notes
  else
    { result := .error (.illegalState (.unpublishable l.unit.unit.id))
      state := { l with session := published.value.2 }
      notes := notes }

/-- Scans a unit and publishes its metadata. -/
def scan (config : Config) (indexes : Indexes) : UnitStep := requiring .notStarted fun l =>
  let prepared := prepare config indexes l.unit.unit
  let unit := { l.unit with unit := prepared.state }
  match prepared.result with
  | .error fault =>
    { result := .error fault, state := { l with unit := unit }, notes := prepared.notes }
  | .ok m =>
    let input : ScanInput :=
      { index := prepared.state.index
        loader := prepared.state.loader
        descriptor := prepared.state.descriptor }
    let classified := Classification.classify config input m
    let unit := { unit with findings := unit.findings ++ Note.findings classified.notes }
    let notes := prepared.notes ++ classified.notes
    match classified.result with
    | .error fault => { result := .error fault, state := { l with unit := unit }, notes := notes }
    | .ok () => publishScan classified.state { l with unit := unit } notes

end RestDeployment.Deployment
