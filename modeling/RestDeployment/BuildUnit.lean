import RestDeployment.ClassIndex
import RestDeployment.WebDescriptor
import RestDeployment.Text.Quoted

/-!
# Build units

A build unit is one archive of a deployment: its index and class loader, the
units it depends on and, for a web application, its descriptor.  Only a unit with
a parent inherits classes from its dependencies.
-/

namespace RestDeployment

/-- One archive of a deployment. -/
structure BuildUnit where
  id : String
  parent : Option String := none
  index : ClassIndex
  loader : ClassLoader
  /-- The ids of the units it depends on, in the order of their declaration. -/
  dependencies : List String := []
  /-- The descriptor of a web application. -/
  descriptor : Option WebDescriptor := none

namespace BuildUnit

/-- Whether the unit is a web application. -/
def isWeb (u : BuildUnit) : Bool := u.descriptor.isSome

/-- The unit in words, for inspection. -/
def describe (u : BuildUnit) : String :=
  "BuildUnit \x7b id: " ++ Text.quote u.id ++ ", parent: " ++ Text.quoteOption u.parent ++
    ", dependencies: " ++ Text.quoteList u.dependencies ++ ", web: " ++ toString u.isWeb ++ " \x7d"

end BuildUnit

end RestDeployment
