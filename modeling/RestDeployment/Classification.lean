import RestDeployment.ClassIndex
import RestDeployment.Config
import RestDeployment.Metadata
import RestDeployment.Note

/-!
# Classification

Sorting the classes of a unit into applications, resources and providers.

An application is a class that extends the application class and can be
instantiated; it has to be loadable.  Resources and providers are found by their
annotations; an annotated interface stands for the classes that implement it.
Decorators are neither.  `classify` changes the metadata of the unit only if all
applications can be loaded, and then restores the precedence of classes.
-/

namespace RestDeployment

/-- What a classification reads.  Units with a descriptor are web applications. -/
structure ScanInput where
  index : ClassIndex
  loader : ClassLoader
  descriptor : Option WebDescriptor

namespace Application

/-- The application that a class is; an annotation without value gives an empty path. -/
def ofEntry (c : ClassEntry) : Application where
  name := c.name
  path := (c.annotation? applicationPathAnnotation).map fun a => a.value.getD ""

/-- Whether an application counts for a web application: it has a path, or the
descriptor maps URLs to a servlet of its name. -/
def isRegistered (a : Application) (web : WebDescriptor) : Bool :=
  a.isAnnotated || web.isMapped a.name

end Application

namespace ClassEntry

/-- Whether the class is a decorator. -/
def isDecorator (c : ClassEntry) : Bool := c.hasAnnotation decoratorAnnotation

/-- The notes on a decorator that is passed over; none on other classes. -/
def decoratorNotes (c : ClassEntry) : List Note :=
  if c.isDecorator then
    [.found .decoratorExcluded c.name "decorators are never resources or providers",
      .debug ("skipping decorator " ++ c.name)]
  else []

end ClassEntry

namespace Classification

/-! ### Applications -/

/-- Whether an application is kept.  Without a descriptor this is left to the web
application that inherits the class. -/
def keeps (descriptor : Option WebDescriptor) (a : Application) : Bool :=
  descriptor.all a.isRegistered

/-- The note on an application that is not kept. -/
def ignored (name : String) : Note :=
  .debug ("ignoring application subclass " ++ name ++ " without path or mapping")

/-- The applications among candidates, all of which have to be loadable. -/
def applications (loader : ClassLoader) (descriptor : Option WebDescriptor) :
    List ClassEntry → Traced (Except Fault (List Application))
  | [] => { value := .ok [] }
  | c :: candidates =>
    if c.isAbstract then applications loader descriptor candidates
    else match loader.load c.name with
      | .error e => { value := .error (.ofLoadError e) }
      | .ok _ =>
        let a := Application.ofEntry c
        let rest := applications loader descriptor candidates
        if keeps descriptor a then { rest with value := rest.value.map (a :: ·) }
        else { rest with notes := ignored c.name :: rest.notes }

/-! ### Annotated classes -/

/-- The notes on an annotation that stands on the wrong kind of element. -/
def misplaced (marker expected : String) (site : Site) : List Note :=
  [.warn (marker ++ " annotation not on a " ++ expected ++ ", found on " ++ site.describe ++
      "; ignoring"),
    .found .malformedTarget site.describe (marker ++ " expected on a " ++ expected)]

/-- The notes on one occurrence of the path annotation, which may stand on
classes and on methods. -/
def pathNotes (o : Occurrence) : List Note :=
  match o.site with
  | .ofClass c => c.decoratorNotes
  | .method .. => []
  | site => misplaced "@Path" "class or method" site

/-- The notes on one occurrence of the provider annotation, which may stand on
classes only. -/
def providerNotes (o : Occurrence) : List Note :=
  match o.site with
  | .ofClass c => c.decoratorNotes
  | site => misplaced "@Provider" "class" site

/-- The classes at which an annotation stands, decorators left out. -/
def annotatedClasses (occurrences : List Occurrence) : List ClassEntry :=
  (occurrences.filterMap fun o => o.site.asClass?).filter fun c => !c.isDecorator

/-- The names of classes as a set. -/
def namesOf (classes : List ClassEntry) : NameSet := NameSet.ofList (classes.map (·.name))

/-- The interfaces that are annotated as resources. -/
def resourceInterfaces (occurrences : List Occurrence) : NameSet :=
  namesOf ((annotatedClasses occurrences).filter (·.isInterface))

/-- The classes that can be instantiated among the implementors of interfaces. -/
def concreteImplementors (index : ClassIndex) (interfaces : NameSet) : List ClassEntry :=
  interfaces.toList.flatMap fun i => (index.implementors i).filter (·.isConcrete)

/-- The classes that are resources: annotated ones, then implementors of annotated interfaces. -/
def resourceClasses (index : ClassIndex) (occurrences : List Occurrence) : List ClassEntry :=
  (annotatedClasses occurrences).filter (fun c => !c.isInterface) ++
    (concreteImplementors index (resourceInterfaces occurrences)).filter fun c => !c.isDecorator

/-- The classes that are providers. -/
def providerClasses (occurrences : List Occurrence) : List ClassEntry :=
  (annotatedClasses occurrences).filter fun c => !c.isInterface

/-- Whether a class is marked as a session bean. -/
def isSessionBean (config : Config) (c : ClassEntry) : Bool :=
  config.sessionBeanMarkers.any c.hasAnnotation

/-! ### The whole classification -/

/-- The classes that a scan found. -/
structure Found where
  applications : List Application
  resources : List ClassEntry
  providers : List ClassEntry

/-- The occurrences of an annotation, if they are looked for. -/
def occurrencesIf (seeks : Bool) (index : ClassIndex) (marker : String) : List Occurrence :=
  if seeks then index.annotated marker else []

/-- The notes of a scan for resources and providers. -/
def scanNotes (index : ClassIndex) (paths providers : List Occurrence) : List Note :=
  paths.flatMap pathNotes ++ providers.flatMap providerNotes ++
    (concreteImplementors index (resourceInterfaces paths)).flatMap (·.decoratorNotes)

/-- The metadata with the classes of a scan added, before precedence is restored. -/
def addFound (config : Config) (m : Metadata) (found : Found) : Metadata :=
  { found.applications.foldl Metadata.addApplication m with
    resources := m.resources ∪ namesOf found.resources
    providers := m.providers ∪ namesOf found.providers
    jndiResources :=
      m.jndiResources ∪ namesOf (found.resources.filter (isSessionBean config)) }

/-- The notes on classes that lose a place to precedence. -/
def overlapNotes (names : List String) : List Note :=
  names.flatMap fun name =>
    [.found .classificationOverlap name "class already classified with higher precedence",
      .warn (name ++ " matched more than one classification, keeping the first by precedence")]

/-- The applications of a scan; a dispatcher that serves one already leaves none to look for. -/
def foundApplications (input : ScanInput) (dispatcherCreated : Bool) :
    Traced (Except Fault (List Application)) :=
  if dispatcherCreated then { value := .ok [] }
  else applications input.loader input.descriptor (input.index.subtypes applicationClass)

/-- Adds the classes of a unit to its metadata, as its policy says. -/
def classify (config : Config) (input : ScanInput) (m : Metadata) : Attempt Metadata Unit :=
  if !m.policy.scans then
    { result := .ok (), state := m, notes := [.debug "scanning disabled, skipping classification"] }
  else
    let found := foundApplications input m.dispatcherCreated
    match found.value with
    | .error fault => { result := .error fault, state := m, notes := found.notes }
    | .ok apps =>
      let paths := occurrencesIf m.policy.seeksResources input.index pathAnnotation
      let providers := occurrencesIf m.policy.seeksProviders input.index providerAnnotation
      let added := addFound config m
        { applications := apps
          resources := resourceClasses input.index paths
          providers := providerClasses providers }
      { result := .ok ()
        state := added.exclusive
        notes := found.notes ++ scanNotes input.index paths providers ++
          overlapNotes added.overlap }

end Classification

end RestDeployment
