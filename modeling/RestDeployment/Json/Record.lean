import RestDeployment.Json

/-!
# Reading records from JSON values

Typed values are read from JSON values field by field.  A record is written as
an object, whose members may come in any order and may include unknown ones, or
as an array of its fields in the order of their declaration, of which trailing
ones may be cut off.  `Record.of?` takes both apart in the same way; the field
readers `required`, `optional`, `withDefault` and `nullable` differ in what they
make of a field that is not there.
-/

namespace RestDeployment.Json

/-! ### Values without fields -/

/-- The text of a string. -/
def string? : Json → Option String
  | .string text => some text
  | _ => none

/-- The value of a Boolean. -/
def bool? : Json → Option Bool
  | .bool value => some value
  | _ => none

/-- The items of an array. -/
def list? {α : Type} (item? : Json → Option α) : Json → Option (List α)
  | .array items => items.mapM item?
  | _ => none

/-- A value, or `null` for none. -/
def nullable? {α : Type} (value? : Json → Option α) : Json → Option (Option α)
  | .null => some none
  | value => (value? value).map some

/-- The name that selects one of several plain alternatives: a string, or an
object with that one key and a value that says nothing more. -/
def choice? (isNothing : Json → Bool) : Json → Option String
  | .string name => some name
  | .object [(name, value)] => if isNothing value then some name else none
  | _ => none

/-- Whether a value is `null`. -/
def isNull : Json → Bool
  | .null => true
  | _ => false

/-! ### Records -/

/-- What a text says about one field of a record. -/
inductive Field where
  | given (value : Json)
  /-- The object has no member of that name. -/
  | absent
  /-- The array ends before the field. -/
  | cut

/-- The fields of a record by name. -/
structure Record where
  field : String → Field

namespace Record

/-- The field of an object. -/
def ofMember (members : List (String × Json)) (name : String) : Field :=
  match members.lookup name with
  | some value => .given value
  | none => .absent

/-- The field of an array that lists the fields with these names. -/
def ofItem (names : List String) (items : List Json) (name : String) : Field :=
  match items[names.idxOf name]? with
  | some value => .given value
  | none => .cut

/-- The record with fields of these names.  A known field must not be given
twice, and an array must not have more items than there are fields. -/
def of? (names : List String) : Json → Option Record
  | .object members =>
    if names.all fun name => members.countP (fun member => member.1 == name) ≤ 1 then
      some ⟨ofMember members⟩
    else none
  | .array items => if items.length ≤ names.length then some ⟨ofItem names items⟩ else none
  | _ => none

variable {α : Type}

/-- A field that has to be there. -/
def required (r : Record) (name : String) (value? : Json → Option α) : Option α :=
  match r.field name with
  | .given value => value? value
  | _ => none

/-- A field that may be missing or `null`. -/
def optional (r : Record) (name : String) (value? : Json → Option α) : Option (Option α) :=
  match r.field name with
  | .given value => nullable? value? value
  | _ => some none

/-- A field that has a default if it is missing, but must not be `null`. -/
def withDefault (r : Record) (name : String) (value? : Json → Option α) (default : α) :
    Option α :=
  match r.field name with
  | .given value => value? value
  | _ => some default

/-- A field that may be `null` and that an object may leave out, but an array may not. -/
def nullable (r : Record) (name : String) (value? : Json → Option α) : Option (Option α) :=
  match r.field name with
  | .given value => nullable? value? value
  | .absent => some none
  | .cut => none

/-- A list field that is empty if it is missing. -/
def listField (r : Record) (name : String) (item? : Json → Option α) : Option (List α) :=
  r.withDefault name (list? item?) []

end Record

/-! ### Writing records -/

/-- The value of a list. -/
def ofList {α : Type} (item : α → Json) (items : List α) : Json := .array (items.map item)

/-- The value of a list of strings. -/
def ofStrings (texts : List String) : Json := ofList .string texts

/-- The value of an optional value, `null` for none. -/
def ofOption {α : Type} (value : α → Json) : Option α → Json
  | some a => value a
  | none => .null

/-- The member of an optional field, which is left out if there is no value. -/
def member? {α : Type} (name : String) (value : α → Json) : Option α → List (String × Json)
  | some a => [(name, value a)]
  | none => []

end RestDeployment.Json
