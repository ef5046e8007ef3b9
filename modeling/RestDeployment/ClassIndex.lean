import RestDeployment.NameMap
import RestDeployment.Occurrence
import RestDeployment.Fault

/-!
# Class indexes and class loaders

The library asks two things of its surroundings.  A class index knows the
compiled classes of a unit and answers questions about them; a class loader says
whether a name can be turned into a class.  Both are given as the answers they
give, so that the decisions of the library can be stated for any of them.
-/

namespace RestDeployment

/-- The answers of an index over finitely many classes, known by name. -/
structure ClassIndex where
  classes : NameMap ClassEntry
  /-- Every occurrence of an annotation. -/
  annotated : String → List Occurrence
  /-- The classes that extend a class, directly or not. -/
  subtypes : String → List ClassEntry
  /-- The classes that implement an interface, directly or not. -/
  implementors : String → List ClassEntry

/-- A class that could be loaded, with its entry if its index is at hand. -/
structure ClassHandle where
  name : String
  entry : Option ClassEntry
deriving DecidableEq

/-- The answers of a class loader. -/
structure ClassLoader where
  load : String → Except LoadError ClassHandle

namespace ClassLoader

/-- A loader that knows the classes of a map and some more names. -/
def ofClasses (classes : NameMap ClassEntry) (visible : List String) : ClassLoader where
  load name :=
    match classes.get? name with
    | some entry => .ok ⟨name, some entry⟩
    | none =>
      if visible.contains name then .ok ⟨name, none⟩
      else .error (.notFound name)

end ClassLoader

end RestDeployment
