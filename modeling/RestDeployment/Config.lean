import RestDeployment.ClassEntry
import RestDeployment.WebDescriptor

/-!
# Configuration

Which servlet dispatches requests to REST classes, how it is set up, which
declared classes are taken for it, and which annotations mark session beans.
-/

namespace RestDeployment

/-! ### Well-known names -/

/-- The class that applications extend; the default dispatcher servlet bears its name. -/
def applicationClass : String := "javax.ws.rs.core.Application"

/-- The annotation that gives an application its path. -/
def applicationPathAnnotation : String := "javax.ws.rs.ApplicationPath"

/-- The annotation that marks resources. -/
def pathAnnotation : String := "javax.ws.rs.Path"

/-- The annotation that marks providers. -/
def providerAnnotation : String := "javax.ws.rs.ext.Provider"

/-- The annotation that marks decorators. -/
def decoratorAnnotation : String := "javax.decorator.Decorator"

/-- The init parameter that names the application a dispatcher servlet serves. -/
def applicationInitParam : String := "javax.ws.rs.Application"

/-- The context parameter that says which exceptions are passed on unwrapped. -/
def unwrappedExceptionsParam : String := "resteasy.unwrapped.exceptions"

/-! ### The dispatcher -/

/-- The dispatcher servlet and how to recognize it. -/
structure Dispatcher where
  /-- The class that every dispatcher servlet runs on. -/
  servletClass : String := "org.jboss.wsf.spi.deployment.WSFServlet"
  servletModeParam : String := "org.jboss.ws.jaxrs.servlet.mode"
  delegateParam : String := "org.jboss.ws.stack.servlet.delegate.class"
  delegateClass : String := "org.jboss.wsf.stack.cxf.JAXRSServletExt"
  /-- Simple names that give a class away as a dispatcher. -/
  recognizedNames : List String := ["WSFServlet"]
  /-- The dispatcher classes that a descriptor may declare. -/
  allowedClasses : List String := ["org.jboss.wsf.spi.deployment.WSFServlet"]
deriving DecidableEq, Inhabited

namespace Dispatcher

/-- Whether a class looks like a dispatcher but is not one that may be declared. -/
def conflicts (d : Dispatcher) (className : String) : Bool :=
  d.recognizedNames.contains (simpleName className) && !d.allowedClasses.contains className

/-- Makes a servlet an asynchronous dispatcher servlet. -/
def install (d : Dispatcher) (s : Servlet) : Servlet :=
  let s := { s with servletClass := some d.servletClass, asyncSupported := true }
  (s.addInitParam d.servletModeParam "true").addInitParam d.delegateParam d.delegateClass

end Dispatcher

/-- The configuration of a deployment. -/
structure Config where
  dispatcher : Dispatcher := {}
  /-- Declared servlet or filter classes that turn scanning off. -/
  bootClasses : List String := [({} : Dispatcher).servletClass]
  /-- The annotations that mark session beans. -/
  sessionBeanMarkers : List String :=
    ["javax.ejb.Stateless", "javax.ejb.Stateful", "javax.ejb.Singleton"]
  /-- Whether the units of a phase may be processed at the same time. -/
  parallel : Bool := true
deriving DecidableEq, Inhabited

namespace Config

/-- Whether a declared class turns scanning off. -/
def isBootClass (c : Config) (className : String) : Bool := c.bootClasses.contains className

end Config

end RestDeployment
