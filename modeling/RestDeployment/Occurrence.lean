import RestDeployment.ClassEntry

/-!
# Occurrences of annotations

An occurrence is one use of an annotation together with the element it is
attached to.  Annotations on methods, fields and parameters are recorded with
the name of the class that owns the element.
-/

namespace RestDeployment

/-- The element that an annotation is attached to. -/
inductive Site where
  | ofClass (entry : ClassEntry)
  | method (owner name : String)
  | field (owner name : String)
  | parameter (owner ofMethod : String) (position : UInt16)
deriving DecidableEq

namespace Site

/-- The class that is annotated, if the element is a class. -/
def asClass? : Site → Option ClassEntry
  | .ofClass entry => some entry
  | _ => none

/-- The element in words. -/
def describe : Site → String
  | .ofClass entry => "class " ++ entry.name
  | .method owner name => "method " ++ owner ++ "#" ++ name
  | .field owner name => "field " ++ owner ++ "#" ++ name
  | .parameter owner ofMethod position =>
    "parameter " ++ toString position.toNat ++ " of " ++ owner ++ "#" ++ ofMethod

end Site

/-- One use of an annotation, with its value if it carries one. -/
structure Occurrence where
  name : String
  site : Site
  value : Option String
deriving DecidableEq

namespace Occurrence

/-- The occurrence of an annotation at a site. -/
def ofAnnotation (a : Annotation) (site : Site) : Occurrence := ⟨a.name, site, a.value⟩

end Occurrence

end RestDeployment
