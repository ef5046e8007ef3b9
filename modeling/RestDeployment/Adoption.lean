import RestDeployment.ClassIndex
import RestDeployment.Config
import RestDeployment.Hierarchy
import RestDeployment.Note

/-!
# Adopting declared servlets

Before a web application is scanned its descriptor is inspected.  A declared
class that looks like a dispatcher but is not an allowed one is a fault.  The
first declared servlet whose class is an application is adopted: it is made a
dispatcher servlet for that application.  `adopt` changes the descriptor only
after every check has passed.
-/

namespace RestDeployment

/-- What a descriptor says about dispatching. -/
structure Inspection where
  hasBootClasses : Bool
  /-- The application for which a declared servlet was adopted. -/
  declaredApplication : Option String
  unwrappedExceptionsSet : Bool
deriving DecidableEq

namespace Inspection

/-- Whether a declared servlet was adopted. -/
def dispatcherCreated (i : Inspection) : Bool := i.declaredApplication.isSome

end Inspection

namespace WebDescriptor

/-- Whether a servlet or filter class turns scanning off. -/
def declaresBootClass (web : WebDescriptor) (config : Config) : Bool :=
  web.declaredClasses.any config.isBootClass

/-- The fault of the first declared class that conflicts with the dispatcher. -/
def conflict? (web : WebDescriptor) (d : Dispatcher) : Option Fault :=
  (web.declarations.find? fun declared => d.conflicts declared.2).map fun declared =>
    .conflictingDispatcher declared.1 declared.2

end WebDescriptor

namespace Adoption

/-- A servlet that is to be adopted among others. -/
structure Candidate where
  before : List Servlet
  servlet : Servlet
  application : String
  after : List Servlet

/-- The first servlet whose class is an application.  The classes of the servlets
up to it have to be loadable. -/
def candidate? (h : Hierarchy) (loader : ClassLoader) :
    List Servlet → Except Fault (Option Candidate)
  | [] => .ok none
  | s :: servlets =>
    let later := (candidate? h loader servlets).map fun found =>
      found.map fun c => { c with before := s :: c.before }
    match s.servletClass with
    | none => later
    | some className =>
      match loader.load className with
      | .error e => .error (.ofLoadError e)
      | .ok handle =>
        if h.descends handle applicationClass then .ok (some ⟨[], s, className, servlets⟩)
        else later

/-- A servlet made the dispatcher servlet of an application. -/
def dispatching (d : Dispatcher) (s : Servlet) (application : String) : Servlet :=
  (d.install s).addInitParam applicationInitParam application

/-- The note on an adopted servlet. -/
def adopted (servlet application : String) : Note :=
  .info ("servlet " ++ servlet ++ " declares application " ++ application ++
    ", serving it through the dispatcher")

/-- Inspects a descriptor and adopts the first servlet that declares an application. -/
def adopt (config : Config) (h : Hierarchy) (loader : ClassLoader) (web : WebDescriptor) :
    Attempt WebDescriptor Inspection :=
  match web.conflict? config.dispatcher with
  | some fault => { result := .error fault, state := web }
  | none =>
    let inspection : Inspection :=
      { hasBootClasses := web.declaresBootClass config
        declaredApplication := none
        unwrappedExceptionsSet := (web.contextParam? unwrappedExceptionsParam).isSome }
    match candidate? h loader web.servlets with
    | .error fault => { result := .error fault, state := web }
    | .ok none => { result := .ok inspection, state := web }
    | .ok (some c) =>
      { result := .ok { inspection with declaredApplication := some c.application }
        state := { web with
          servlets := c.before ++ dispatching config.dispatcher c.servlet c.application :: c.after }
        notes := [adopted c.servlet.name c.application] }

end Adoption

end RestDeployment
