import RestDeployment.Occurrence
import RestDeployment.ClassEntry.Codec

/-!
# The JSON form of occurrences

A site is a record whose member `type` says which kind of element it is; the
other members are those of that kind.  Since `type` may stand anywhere, a site
is held as a whole before it is read, and so it has to be storable.
-/

namespace RestDeployment

namespace Site

/-- The JSON form of a site. -/
def toJson : Site → Json
  | .ofClass entry => .object (("type", .string "class") :: entry.members)
  | .method owner name =>
    .object [("type", .string "method"), ("owner", .string owner), ("name", .string name)]
  | .field owner name =>
    .object [("type", .string "field"), ("owner", .string owner), ("name", .string name)]
  | .parameter owner ofMethod position =>
    .object [("type", .string "parameter"), ("owner", .string owner), ("method", .string ofMethod),
      ("position", .number position.toNat)]

/-- How deeply a site may nest, which stands inside the record of an occurrence. -/
def nestingLimit : Nat := Json.nestingLimit - 1

/-- Separates the kind of element from the rest of a record: an object names it
under `type`, an array names it first. -/
def split? : Json → Option (String × Json)
  | .object members =>
    match members.filter fun member => member.1 == "type" with
    | [(_, .string kind)] => some (kind, .object (members.filter fun member => member.1 != "type"))
    | _ => none
  | .array (.string kind :: items) => some (kind, .array items)
  | _ => none

/-- Whether a value may stand beside the name of a kind or modifier inside a site. -/
def isNothing : Json → Bool
  | .null => true
  | .object [] => true
  | _ => false

/-- Reads the position of a parameter. -/
def position? : Json → Option UInt16
  | .number value => if 0 ≤ value ∧ value < 65536 then some (UInt16.ofNat value.toNat) else none
  | _ => none

/-- Reads the owner and the name of a method or field. -/
def ownedName? (j : Json) : Option (String × String) := do
  let r ← Json.Record.of? ["owner", "name"] j
  return (← r.required "owner" Json.string?, ← r.required "name" Json.string?)

/-- Reads a parameter. -/
def parameter? (j : Json) : Option Site := do
  let r ← Json.Record.of? ["owner", "method", "position"] j
  return .parameter (← r.required "owner" Json.string?) (← r.required "method" Json.string?)
    (← r.required "position" position?)

/-- Reads a site. -/
def ofJson? (j : Json) : Option Site := do
  guard (j.storable nestingLimit)
  let (kind, fields) ← split? j
  match kind with
  | "class" => (ClassEntry.ofJsonWith? isNothing fields).map .ofClass
  | "method" => (ownedName? fields).map fun (owner, name) => .method owner name
  | "field" => (ownedName? fields).map fun (owner, name) => .field owner name
  | "parameter" => parameter? fields
  | _ => none

end Site

namespace Occurrence

/-- The JSON form of an occurrence. -/
def toJson (o : Occurrence) : Json :=
  .object ([("name", .string o.name), ("target", o.site.toJson)] ++
    Json.member? "value" .string o.value)

/-- Reads an occurrence. -/
def ofJson? (j : Json) : Option Occurrence := do
  let r ← Json.Record.of? ["name", "target", "value"] j
  return {
    name := ← r.required "name" Json.string?
    site := ← r.required "target" Site.ofJson?
    value := ← r.optional "value" Json.string? }

end Occurrence

end RestDeployment
