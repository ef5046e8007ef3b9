import RestDeployment.Classification

/-!
# Registering dispatcher servlets

The last step of a web application's deployment gives each of its applications a
servlet that dispatches requests to it and a URL mapping, as far as the
descriptor has none yet; without applications a default dispatcher servlet is
registered.  `register` first draws up a plan, for which every application has to
be loadable, and changes the descriptor only when the plan is complete.
-/

namespace RestDeployment

/-- Why no servlet had to be registered. -/
inductive SkipReason where
  /-- A declared servlet serves an application already. -/
  | dispatcherCreated
  /-- The descriptor declares the dispatcher itself. -/
  | bootClasses
deriving DecidableEq

/-- What registration did. -/
inductive Registration where
  | skipped (reason : SkipReason)
  | defaultServlet (added : Bool)
  /-- The names of the servlets that were added and of those that got a mapping. -/
  | applicationServlets (servlets mappings : List String)
deriving DecidableEq

namespace Registration

/-- The name of the default dispatcher servlet. -/
def defaultServletName : String := applicationClass

/-- The default dispatcher servlet. -/
def defaultDispatcher (d : Dispatcher) : Servlet := d.install { name := defaultServletName }

/-- The dispatcher servlet of an application.  It starts before the first request. -/
def applicationDispatcher (d : Dispatcher) (application : String) : Servlet :=
  (d.install { name := application, loadOnStartup := some "0" }).addInitParam
    applicationInitParam application

/-- Whether the servlet of an application's name is its dispatcher servlet already. -/
def isServed (d : Dispatcher) (web : WebDescriptor) (application : String) : Bool :=
  (web.servlet? application).any fun s =>
    s.servletClass == some d.servletClass &&
      (s.initParam? applicationInitParam).bind (·.value) == some application

/-! ### The plan -/

/-- What is to be added for some applications. -/
structure Plan where
  servlets : List Servlet := []
  mappings : List ServletMapping := []
  /-- A declared URL pattern takes the place of an application path. -/
  ignorePath : Bool := false

/-- The plan of two groups of applications. -/
def Plan.append (p q : Plan) : Plan where
  servlets := p.servlets ++ q.servlets
  mappings := p.mappings ++ q.mappings
  ignorePath := p.ignorePath || q.ignorePath

/-- The servlet to be added for a name that no servlet bears yet. -/
def plannedServlets (d : Dispatcher) (web : WebDescriptor) (name : String) : List Servlet :=
  if (web.servlet? name).isSome then [] else [applicationDispatcher d name]

/-- The mapping to be added for a name that is not mapped yet. -/
def plannedMappings (web : WebDescriptor) (name : String) : List ServletMapping :=
  if web.isMapped name then [] else [⟨name, ["/*"]⟩]

/-- What is to be added for the application of a name. -/
def planOf (d : Dispatcher) (web : WebDescriptor) (name : String) : Plan :=
  if isServed d web name then {}
  else
    { servlets := plannedServlets d web name
      mappings := plannedMappings web name
      ignorePath := !(web.urlPatterns name).isEmpty }

/-- The notes on a servlet that is declared already. -/
def declaredNotes (web : WebDescriptor) (name : String) : List Note :=
  if (web.servlet? name).isSome then [.debug ("servlet " ++ name ++ " already registered")]
  else []

/-- The notes on the URL patterns of a servlet beyond the first. -/
def patternNotes (web : WebDescriptor) (name : String) : List Note :=
  ((web.urlPatterns name).drop 1).flatMap fun pattern =>
    [.warn ("more than one mapping found for servlet " ++ name ++ ", ignoring pattern " ++ pattern),
      .found .multipleUrlPatterns name ("additional url pattern " ++ pattern)]

/-- The notes on planning for the application of a name. -/
def planNotes (d : Dispatcher) (web : WebDescriptor) (name : String) : List Note :=
  if isServed d web name then
    [.debug ("dispatcher servlet for " ++ name ++ " already synthesized")]
  else
    declaredNotes web name ++ patternNotes web name ++
      [.info ("registered dispatcher servlet for application " ++ name)]

/-- The plan for some applications, all of which have to be loadable.  Servlets go
by the names under which the classes were loaded. -/
def plan (d : Dispatcher) (loader : ClassLoader) (web : WebDescriptor) :
    List String → Traced (Except Fault Plan)
  | [] => { value := .ok {} }
  | application :: applications =>
    match loader.load application with
    | .error e => { value := .error (.ofLoadError e) }
    | .ok handle =>
      let rest := plan d loader web applications
      { value := rest.value.map (planOf d web handle.name).append
        notes := planNotes d web handle.name ++ rest.notes }

/-- The descriptor with the servlets and mappings of a plan. -/
def Plan.addTo (p : Plan) (web : WebDescriptor) : WebDescriptor :=
  { web with
    servlets := web.servlets ++ p.servlets
    servletMappings := web.servletMappings ++ p.mappings }

/-! ### The registration -/

/-- The metadata and the descriptor of a web application. -/
structure WebState where
  metadata : Metadata
  descriptor : WebDescriptor

/-- The names of the applications that count for the descriptor, in key order. -/
def registeredNames (m : Metadata) (web : WebDescriptor) : List String :=
  (m.applications.values.filter (·.isRegistered web)).map (·.name)

/-- Registers the default dispatcher servlet, unless it is declared. -/
def registerDefault (d : Dispatcher) (w : WebState) : Attempt WebState Registration :=
  if (w.descriptor.servlet? defaultServletName).isSome then
    { result := .ok (.defaultServlet false)
      state := w
      notes := [.debug "default dispatcher servlet already registered"] }
  else
    { result := .ok (.defaultServlet true)
      state := { w with descriptor := w.descriptor.addServlet (defaultDispatcher d) }
      notes := [.info ("registered default dispatcher servlet " ++ defaultServletName)] }

/-- Registers the servlets of applications. -/
def registerApplications (d : Dispatcher) (loader : ClassLoader) (w : WebState)
    (applications : List String) : Attempt WebState Registration :=
  let planned := plan d loader w.descriptor applications
  match planned.value with
  | .error fault => { result := .error fault, state := w, notes := planned.notes }
  | .ok p =>
    { result := .ok (.applicationServlets (p.servlets.map (·.name))
        (p.mappings.map (·.servletName)))
      state :=
        { metadata := { w.metadata with
            ignoreApplicationPath := w.metadata.ignoreApplicationPath || p.ignorePath }
          descriptor := p.addTo w.descriptor }
      notes := planned.notes }

/-- Registers the dispatcher servlets that the metadata of a web application calls for. -/
def register (config : Config) (loader : ClassLoader) (w : WebState) :
    Attempt WebState Registration :=
  if w.metadata.hasBootClasses || w.metadata.policy.hasBootClasses then
    { result := .ok (.skipped .bootClasses)
      state := w
      notes := [.info "descriptor declares the dispatcher, skipping servlet synthesis"] }
  else if w.metadata.dispatcherCreated then
    { result := .ok (.skipped .dispatcherCreated)
      state := w
      notes :=
        [.info "dispatcher already created from a declared servlet, skipping synthesis"] }
  else match registeredNames w.metadata w.descriptor with
    | [] => registerDefault config.dispatcher w
    | applications => registerApplications config.dispatcher loader w applications

end Registration

end RestDeployment
