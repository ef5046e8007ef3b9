import RestDeployment.ClassEntry
import RestDeployment.Json.Record

/-!
# The JSON form of class entries

Each type has a writer `toJson` and a reader `ofJson?`.  Reading what was written
gives the value back; the reader also accepts fields that are left out, unknown
fields, and kinds or modifiers in their long form.
-/

namespace RestDeployment

namespace ClassKind

/-- The name of a kind. -/
def name : ClassKind → String
  | .ordinary => "class"
  | .interface => "interface"
  | .enumeration => "enum"
  | .annotationType => "annotation"

/-- The kind of a name. -/
def ofName? : String → Option ClassKind
  | "class" => some .ordinary
  | "interface" => some .interface
  | "enum" => some .enumeration
  | "annotation" => some .annotationType
  | _ => none

/-- The JSON form of a kind. -/
def toJson (k : ClassKind) : Json := .string k.name

/-- Reads a kind. -/
def ofJson? (isNothing : Json → Bool) (j : Json) : Option ClassKind := do
  ofName? (← j.choice? isNothing)

end ClassKind

namespace Modifier

/-- The name of a modifier. -/
def name : Modifier → String
  | .publicAccess => "public"
  | .protectedAccess => "protected"
  | .privateAccess => "private"
  | .abstract => "abstract"
  | .static => "static"
  | .final => "final"

/-- The modifier of a name. -/
def ofName? : String → Option Modifier
  | "public" => some .publicAccess
  | "protected" => some .protectedAccess
  | "private" => some .privateAccess
  | "abstract" => some .abstract
  | "static" => some .static
  | "final" => some .final
  | _ => none

/-- The JSON form of a modifier. -/
def toJson (m : Modifier) : Json := .string m.name

/-- Reads a modifier. -/
def ofJson? (isNothing : Json → Bool) (j : Json) : Option Modifier := do
  ofName? (← j.choice? isNothing)

end Modifier

namespace Annotation

/-- The JSON form of an annotation. -/
def toJson (a : Annotation) : Json :=
  .object (("name", .string a.name) :: Json.member? "value" .string a.value)

/-- Reads an annotation. -/
def ofJson? (j : Json) : Option Annotation := do
  let r ← Json.Record.of? ["name", "value"] j
  return {
    name := ← r.required "name" Json.string?
    value := ← r.optional "value" Json.string? }

end Annotation

namespace Member

/-- The JSON form of a member. -/
def toJson (m : Member) : Json :=
  .object [("name", .string m.name), ("annotations", Json.ofList Annotation.toJson m.annotations)]

/-- Reads a member. -/
def ofJson? (j : Json) : Option Member := do
  let r ← Json.Record.of? ["name", "annotations"] j
  return {
    name := ← r.required "name" Json.string?
    annotations := ← r.listField "annotations" Annotation.ofJson? }

end Member

namespace ClassEntry

/-- The fields of a class entry, in order. -/
def fieldNames : List String :=
  ["name", "kind", "modifiers", "super_name", "interfaces", "annotations", "methods", "fields"]

/-- The members of the JSON form of a class entry. -/
def members (c : ClassEntry) : List (String × Json) :=
  [("name", .string c.name), ("kind", c.kind.toJson),
    ("modifiers", Json.ofList Modifier.toJson c.modifiers)] ++
  Json.member? "super_name" .string c.superName ++
  [("interfaces", Json.ofStrings c.interfaces),
    ("annotations", Json.ofList Annotation.toJson c.annotations),
    ("methods", Json.ofList Member.toJson c.methods),
    ("fields", Json.ofList Member.toJson c.fields)]

/-- The JSON form of a class entry. -/
def toJson (c : ClassEntry) : Json := .object c.members

/-- Reads a class entry; `isNothing` tells which values may stand beside the
name of a kind or modifier in its long form. -/
def ofJsonWith? (isNothing : Json → Bool) (j : Json) : Option ClassEntry := do
  let r ← Json.Record.of? fieldNames j
  return {
    name := ← r.required "name" Json.string?
    kind := ← r.withDefault "kind" (ClassKind.ofJson? isNothing) .ordinary
    modifiers := ← r.listField "modifiers" (Modifier.ofJson? isNothing)
    superName := ← r.optional "super_name" Json.string?
    interfaces := ← r.listField "interfaces" Json.string?
    annotations := ← r.listField "annotations" Annotation.ofJson?
    methods := ← r.listField "methods" Member.ofJson?
    fields := ← r.listField "fields" Member.ofJson? }

/-- Reads a class entry. -/
def ofJson? (j : Json) : Option ClassEntry := ofJsonWith? Json.isNull j

end ClassEntry

end RestDeployment
