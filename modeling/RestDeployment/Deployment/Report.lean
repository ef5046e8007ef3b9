import RestDeployment.Deployment.UnitState

/-!
# Reports

What a deployment tells about its units when it has ended well.
-/

namespace RestDeployment.Deployment

/-- What a deployment tells about a unit. -/
structure UnitReport where
  id : String
  parent : Option String
  phase : Phase
  metadata : Metadata
  merge : Option MergeReport
  registration : Option Registration
  /-- The descriptor that the deployment leaves to a web application. -/
  descriptor : Option WebDescriptor
  findings : List Finding
deriving DecidableEq

namespace UnitReport

/-- The report on a unit at the end of its way. -/
def ofState (u : UnitState) : UnitReport where
  id := u.unit.id
  parent := u.unit.parent
  phase := u.phase
  metadata := u.metadata
  merge := u.merge
  registration := u.registration
  descriptor := u.unit.descriptor
  findings := u.findings

end UnitReport

/-- What a deployment tells about its units, in the order of submission. -/
structure Report where
  deployment : String
  units : List UnitReport
deriving DecidableEq

namespace Report

/-- The report on the first unit of an id. -/
def unit? (r : Report) (id : String) : Option UnitReport := r.units.find? fun u => u.id == id

/-- The number of findings about all units. -/
def findingCount (r : Report) : Nat := r.units.foldl (fun n u => n + u.findings.length) 0

end Report

end RestDeployment.Deployment
