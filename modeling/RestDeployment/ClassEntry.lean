/-!
# Class entries

What an index records of a compiled class: its name, kind and modifiers, its
links to a superclass and to interfaces, and the annotations on it and on its
members.  Everything the library decides about a class it decides from its entry.
-/

namespace RestDeployment

/-- The kind of type that an entry describes. -/
inductive ClassKind where
  | ordinary
  | interface
  | enumeration
  | annotationType
deriving DecidableEq, Inhabited

/-- A declared modifier of a class. -/
inductive Modifier where
  | publicAccess
  | protectedAccess
  | privateAccess
  | abstract
  | static
  | final
deriving DecidableEq

/-- The use of an annotation on an element, with its value if it carries one. -/
structure Annotation where
  name : String
  value : Option String
deriving DecidableEq

/-- A method or field of a class. -/
structure Member where
  name : String
  annotations : List Annotation
deriving DecidableEq

namespace Member

/-- The uses of an annotation on a member, in order. -/
def uses (m : Member) (marker : String) : List Annotation :=
  m.annotations.filter fun a => a.name == marker

end Member

/-- A class as an index records it.  Names are fully qualified and dotted. -/
structure ClassEntry where
  name : String
  kind : ClassKind
  modifiers : List Modifier
  superName : Option String
  interfaces : List String
  annotations : List Annotation
  methods : List Member
  fields : List Member
deriving DecidableEq

namespace ClassEntry

/-- Whether the class is an interface; annotation types are interfaces too. -/
def isInterface (c : ClassEntry) : Bool :=
  match c.kind with
  | .interface | .annotationType => true
  | .ordinary | .enumeration => false

/-- Whether the class cannot be instantiated: an interface, or declared abstract. -/
def isAbstract (c : ClassEntry) : Bool := c.isInterface || c.modifiers.contains .abstract

/-- Whether the class can be instantiated. -/
def isConcrete (c : ClassEntry) : Bool := !c.isAbstract

/-- The first use of an annotation on the class itself. -/
def annotation? (c : ClassEntry) (name : String) : Option Annotation :=
  c.annotations.find? fun a => a.name == name

/-- Whether the class itself carries an annotation. -/
def hasAnnotation (c : ClassEntry) (name : String) : Bool := (c.annotation? name).isSome

end ClassEntry

/-- The last segment of a dotted name. -/
def simpleName (name : String) : String :=
  String.ofList (name.toList.reverse.takeWhile (· ≠ '.')).reverse

end RestDeployment
