import RestDeployment.NameMap

/-!
# Metadata of a unit

What a scan of a unit finds out about REST: its applications, resources and
providers, those resources that are also components to be looked up by name, and
a few flags.  A class counts once.  An application is neither a resource nor a
provider, and a resource is no provider; `Metadata.exclusive` restores this
precedence after classes have been added.
-/

namespace RestDeployment

/-- Which kinds of classes a scan looks for. -/
structure ScanPolicy where
  scanAll : Bool := false
  scanProviders : Bool := false
  scanResources : Bool := false
  /-- The descriptor declares the dispatcher itself, which turns scanning off. -/
  hasBootClasses : Bool := false
deriving DecidableEq, Inhabited

namespace ScanPolicy

/-- The policy of a unit without descriptor. -/
def everything : ScanPolicy := ⟨true, true, true, false⟩

/-- Whether anything is scanned at all. -/
def scans (p : ScanPolicy) : Bool :=
  !p.hasBootClasses && (p.scanAll || p.scanProviders || p.scanResources)

/-- Whether resources are scanned. -/
def seeksResources (p : ScanPolicy) : Bool := !p.hasBootClasses && p.scanResources

/-- Whether providers are scanned. -/
def seeksProviders (p : ScanPolicy) : Bool := !p.hasBootClasses && p.scanProviders

end ScanPolicy

/-- An application class, with the path that its annotation gives it. -/
structure Application where
  name : String
  path : Option String
deriving DecidableEq

namespace Application

/-- Whether the class is annotated with a path. -/
def isAnnotated (a : Application) : Bool := a.path.isSome

end Application

/-- The REST metadata of a unit. -/
structure Metadata where
  policy : ScanPolicy := {}
  applications : NameMap Application := ∅
  providers : NameSet := ∅
  resources : NameSet := ∅
  /-- Resources that are session beans, to be published by name as well. -/
  jndiResources : NameSet := ∅
  hasBootClasses : Bool := false
  /-- A declared servlet already serves an application. -/
  dispatcherCreated : Bool := false
  /-- A declared URL pattern takes the place of the application path. -/
  ignoreApplicationPath : Bool := false
  unwrappedExceptionsSet : Bool := false
deriving DecidableEq, Inhabited

namespace Metadata

/-- Metadata without classes, under a policy. -/
def ofPolicy (p : ScanPolicy) : Metadata := { policy := p, hasBootClasses := p.hasBootClasses }

/-- The metadata with one more application, over an application of the same name. -/
def addApplication (m : Metadata) (a : Application) : Metadata :=
  { m with applications := m.applications.insert a.name a }

/-- Whether no class has been found. -/
def isEmpty (m : Metadata) : Bool :=
  m.applications.isEmpty && m.providers.isEmpty && m.resources.isEmpty && m.jndiResources.isEmpty

/-! ### Precedence -/

/-- The resources that are no applications. -/
def properResources (m : Metadata) : NameSet :=
  m.resources.filter fun n => !m.applications.contains n

/-- The providers that are neither applications nor proper resources. -/
def properProviders (m : Metadata) : NameSet :=
  m.providers.filter fun n => !(m.applications.contains n || decide (n ∈ m.properResources))

/-- The metadata with every class left in the first place that claims it:
applications win over everything and resources over providers. -/
def exclusive (m : Metadata) : Metadata :=
  { m with resources := m.properResources, providers := m.properProviders }

/-- The names that `exclusive` removes: from the resources in order, then from
the providers in order. -/
def overlap (m : Metadata) : List String :=
  (m.resources \ m.properResources).toList ++ (m.providers \ m.properProviders).toList

end Metadata

end RestDeployment
