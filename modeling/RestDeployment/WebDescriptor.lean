/-!
# Web descriptors

The deployment descriptor of a web application declares servlets, filters, URL
mappings, context parameters and security constraints.  The library looks things
up in it and appends to it.  Parameters are kept as lists: a look-up by name
answers the first entry, while writers append, so an earlier entry of the same
name stays in force.
-/

namespace RestDeployment

/-- A named parameter; the value may be unset. -/
structure Param where
  name : String
  value : Option String
deriving DecidableEq

/-- A declared servlet. -/
structure Servlet where
  name : String
  servletClass : Option String := none
  initParams : List Param := []
  asyncSupported : Bool := false
  loadOnStartup : Option String := none
deriving DecidableEq

namespace Servlet

/-- The first init parameter of a name. -/
def initParam? (s : Servlet) (name : String) : Option Param :=
  s.initParams.find? fun p => p.name == name

/-- The servlet with one more init parameter. -/
def addInitParam (s : Servlet) (name value : String) : Servlet :=
  { s with initParams := s.initParams ++ [⟨name, some value⟩] }

end Servlet

/-- A declared filter. -/
structure Filter where
  name : String
  filterClass : Option String := none
  initParams : List Param := []
deriving DecidableEq

/-- URL patterns mapped to the servlet of a name. -/
structure ServletMapping where
  servletName : String
  urlPatterns : List String
deriving DecidableEq

/-- Roles that may access the URLs of a resource. -/
structure SecurityConstraint where
  resourceName : String
  urlPatterns : List String := []
  roles : List String := []
deriving DecidableEq

/-- The deployment descriptor of a web application. -/
structure WebDescriptor where
  metadataComplete : Bool := false
  servlets : List Servlet := []
  filters : List Filter := []
  servletMappings : List ServletMapping := []
  contextParams : List Param := []
  securityConstraints : List SecurityConstraint := []
deriving DecidableEq, Inhabited

namespace WebDescriptor

/-! ### Look-ups -/

/-- The first servlet of a name. -/
def servlet? (web : WebDescriptor) (name : String) : Option Servlet :=
  web.servlets.find? fun s => s.name == name

/-- Whether a mapping names a servlet. -/
def isMapped (web : WebDescriptor) (servletName : String) : Bool :=
  web.servletMappings.any fun m => m.servletName == servletName

/-- The URL patterns mapped to a servlet over all mappings, in order. -/
def urlPatterns (web : WebDescriptor) (servletName : String) : List String :=
  (web.servletMappings.filter fun m => m.servletName == servletName).flatMap (·.urlPatterns)

/-- The first context parameter of a name. -/
def contextParam? (web : WebDescriptor) (name : String) : Option Param :=
  web.contextParams.find? fun p => p.name == name

/-- The first init parameter of a name on any servlet, in servlet order. -/
def initParam? (web : WebDescriptor) (name : String) : Option Param :=
  web.servlets.findSome? fun s => s.initParam? name

/-- The servlets that declare a class: servlet name and class. -/
def servletClasses (web : WebDescriptor) : List (String × String) :=
  web.servlets.filterMap fun s => s.servletClass.map fun c => (s.name, c)

/-- The filters that declare a class: filter name and class. -/
def filterClasses (web : WebDescriptor) : List (String × String) :=
  web.filters.filterMap fun f => f.filterClass.map fun c => (f.name, c)

/-- The names and classes of the declared servlets, then of the declared filters. -/
def declarations (web : WebDescriptor) : List (String × String) :=
  web.servletClasses ++ web.filterClasses

/-- The declared servlet classes, then the declared filter classes. -/
def declaredClasses (web : WebDescriptor) : List String := web.declarations.map Prod.snd

/-! ### Additions -/

/-- The descriptor with one more servlet. -/
def addServlet (web : WebDescriptor) (s : Servlet) : WebDescriptor :=
  { web with servlets := web.servlets ++ [s] }

/-- The descriptor with one more mapping. -/
def addMapping (web : WebDescriptor) (m : ServletMapping) : WebDescriptor :=
  { web with servletMappings := web.servletMappings ++ [m] }

/-- The descriptor with one more context parameter. -/
def addContextParam (web : WebDescriptor) (name value : String) : WebDescriptor :=
  { web with contextParams := web.contextParams ++ [⟨name, some value⟩] }

end WebDescriptor

end RestDeployment
