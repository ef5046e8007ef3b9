/-!
# JSON values

The exchange format of the library.  Members of an object keep their order and
their repetitions, because whether a repeated member is an error depends on who
reads the object.  Integers are kept apart from decimals, since only integers
are ever read as numbers; a decimal keeps its spelling.
-/

namespace RestDeployment

/-- A JSON value as a text spells it. -/
inductive Json where
  | null
  | bool (value : Bool)
  /-- A number without fraction or exponent. -/
  | number (value : Int)
  /-- Any other number, as it is spelt. -/
  | decimal (literal : String)
  | string (text : String)
  | array (items : List Json)
  /-- The members in order; a key may occur more than once. -/
  | object (members : List (String × Json))
  /-- A well-formed piece of text that stands for no value: a string or an
  object key with an unpaired surrogate escape, or a number too large for a
  double.  It does no harm where it is skipped. -/
  | unrepresentable

namespace Json

/-- How deeply arrays and objects may nest in a value that is held as a whole. -/
def nestingLimit : Nat := 127

mutual

/-- Whether a value can be held as a whole: everything in it stands for a value,
and arrays and objects nest at most `depth` deep. -/
def storable (depth : Nat) : Json → Bool
  | .array items =>
    match depth with
    | 0 => false
    | depth + 1 => storableItems depth items
  | .object members =>
    match depth with
    | 0 => false
    | depth + 1 => storableMembers depth members
  | .unrepresentable => false
  | _ => true

/-- Whether every item of an array can be held. -/
def storableItems (depth : Nat) : List Json → Bool
  | [] => true
  | item :: items => storable depth item && storableItems depth items

/-- Whether every member of an object can be held. -/
def storableMembers (depth : Nat) : List (String × Json) → Bool
  | [] => true
  | (_, value) :: members => storable depth value && storableMembers depth members

end

mutual

/-- The value in which of several members with one key only the last is left. -/
def lastWins : Json → Json
  | .array items => .array (lastWinsItems items)
  | .object members => .object (lastWinsMembers members)
  | value => value

/-- The items of an array, each with its repeated members dropped. -/
def lastWinsItems : List Json → List Json
  | [] => []
  | item :: items => lastWins item :: lastWinsItems items

/-- The members of an object without those that a later member overrides. -/
def lastWinsMembers : List (String × Json) → List (String × Json)
  | [] => []
  | (key, value) :: members =>
    let rest := lastWinsMembers members
    if members.any fun member => member.1 == key then rest else (key, lastWins value) :: rest

end

end Json

end RestDeployment
