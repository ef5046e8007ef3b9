import RestDeployment.ClassIndex
import RestDeployment.NameSet.Reach

/-!
# Class tables

A class table is an index over a list of class entries.  Besides the entries it
keeps two tables of links downwards, from a class to those that name it as their
superclass and from an interface to those that list it, so that the questions
about hierarchies need not search all entries.  Putting a class in again under
its name takes back the links of its former entry.

Hierarchies may be cyclic and may lead out of the table: a link to a name without
entry is kept, and counts as soon as somebody asks for that name.
-/

namespace RestDeployment

/-- An index over class entries, with links from each name to those below it. -/
structure ClassTable where
  classes : NameMap ClassEntry := ∅
  /-- For a class, the classes that name it as their superclass. -/
  subclasses : NameMap (List String) := ∅
  /-- For an interface, the classes and interfaces that list it. -/
  implementors : NameMap (List String) := ∅

namespace ClassTable

/-! ### Links -/

/-- The names below a name. -/
def children (links : NameMap (List String)) (parent : String) : List String :=
  (links.get? parent).getD []

/-- Adds a link. -/
def link (child : String) (links : NameMap (List String)) (parent : String) :
    NameMap (List String) :=
  links.insert parent (children links parent ++ [child])

/-- Takes every link from a parent to a child away. -/
def unlink (child : String) (links : NameMap (List String)) (parent : String) :
    NameMap (List String) :=
  links.insert parent ((children links parent).filter (· ≠ child))

/-- Takes away the links of an entry. -/
def unlinkEntry (t : ClassTable) (c : ClassEntry) : ClassTable :=
  { t with
    subclasses := c.superName.toList.foldl (unlink c.name) t.subclasses
    implementors := c.interfaces.foldl (unlink c.name) t.implementors }

/-- Adds the links of an entry. -/
def linkEntry (t : ClassTable) (c : ClassEntry) : ClassTable :=
  { t with
    subclasses := c.superName.toList.foldl (link c.name) t.subclasses
    implementors := c.interfaces.foldl (link c.name) t.implementors }

/-! ### Entries -/

/-- The table with an entry put in, over an entry of the same name. -/
def insert (t : ClassTable) (c : ClassEntry) : ClassTable :=
  let cleared := match t.classes.get? c.name with
    | some former => t.unlinkEntry former
    | none => t
  { cleared.linkEntry c with classes := t.classes.insert c.name c }

/-- The table of a list of entries; of two with one name the later counts. -/
def ofList (classes : List ClassEntry) : ClassTable := classes.foldl insert {}

/-- The entry of a name. -/
def class? (t : ClassTable) (name : String) : Option ClassEntry := t.classes.get? name

/-- The number of entries. -/
def size (t : ClassTable) : Nat := t.classes.size

/-- The entries of names, in order; names without entry are passed over. -/
def entriesOf (t : ClassTable) (names : NameSet) : List ClassEntry :=
  names.toList.filterMap t.classes.get?

/-! ### Annotations -/

/-- The occurrences of an annotation on members of a class. -/
def memberOccurrences (marker : String) (site : String → Site) (members : List Member) :
    List Occurrence :=
  members.flatMap fun m =>
    (m.uses marker).map fun a => Occurrence.ofAnnotation a (site m.name)

/-- The occurrences of an annotation on a class, its methods and its fields.  Of
several uses on the class itself the first counts. -/
def occurrencesOn (marker : String) (c : ClassEntry) : List Occurrence :=
  (c.annotation? marker).toList.map (fun a => Occurrence.ofAnnotation a (.ofClass c)) ++
    memberOccurrences marker (.method c.name) c.methods ++
    memberOccurrences marker (.field c.name) c.fields

/-- The occurrences of an annotation, in the order of class names. -/
def annotated (t : ClassTable) (marker : String) : List Occurrence :=
  t.classes.values.flatMap (occurrencesOn marker)

/-! ### Hierarchies -/

/-- The names of the classes that extend one of these classes, directly or not. -/
def subclassNames (t : ClassTable) (names : List String) : NameSet :=
  NameSet.reach (children t.subclasses) t.classes.keys names

/-- The classes that extend a class, directly or not, in name order. -/
def subtypes (t : ClassTable) (name : String) : List ClassEntry :=
  t.entriesOf (t.subclassNames [name])

/-- Whether a name is that of an interface of the table. -/
def isInterface (t : ClassTable) (name : String) : Bool :=
  (t.classes.get? name).any ClassEntry.isInterface

/-- The interfaces that list an interface. -/
def subinterfaces (t : ClassTable) (name : String) : List String :=
  (children t.implementors name).filter t.isInterface

/-- The classes other than interfaces that list an interface. -/
def directImplementors (t : ClassTable) (name : String) : List String :=
  (children t.implementors name).filter fun n => !t.isInterface n

/-- An interface and the interfaces that extend it, directly or not. -/
def interfaceFamily (t : ClassTable) (name : String) : List String :=
  name :: (NameSet.reach t.subinterfaces t.classes.keys [name]).toList

/-- The names of the classes that implement an interface: those that list it or
an interface below it, and all that extend those. -/
def implementorNames (t : ClassTable) (name : String) : NameSet :=
  let direct := (t.interfaceFamily name).flatMap t.directImplementors
  NameSet.ofList direct ∪ t.subclassNames direct

/-- The classes that implement an interface, directly or not, in name order. -/
def implementorsOf (t : ClassTable) (name : String) : List ClassEntry :=
  t.entriesOf (t.implementorNames name)

/-- The answers of a table. -/
def toIndex (t : ClassTable) : ClassIndex where
  classes := t.classes
  annotated := t.annotated
  subtypes := t.subtypes
  implementors := t.implementorsOf

/-- The loader of the classes of a table and some more names. -/
def loader (t : ClassTable) (visible : List String) : ClassLoader :=
  ClassLoader.ofClasses t.classes visible

end ClassTable

end RestDeployment
