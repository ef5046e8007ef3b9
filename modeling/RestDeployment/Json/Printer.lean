import RestDeployment.Json

/-!
# Writing JSON texts

`Json.compact` writes a value on one line without blanks; `Json.pretty` writes
one item or member a line, two spaces deeper per level, and an empty array or
object as a pair of brackets.  In strings the quote, the backslash and the
control characters are escaped and nothing else.
-/

namespace RestDeployment.Json

namespace Printer

/-- A hexadecimal digit in lower case. -/
def hexDigit (n : Nat) : Char := Nat.digitChar (n % 16)

/-- A character inside a string. -/
def escapeChar (c : Char) : List Char :=
  if c = '"' then ['\\', '"']
  else if c = '\\' then ['\\', '\\']
  else if c = '\n' then ['\\', 'n']
  else if c = '\r' then ['\\', 'r']
  else if c = '\t' then ['\\', 't']
  else if c = '\x08' then ['\\', 'b']
  else if c = '\x0c' then ['\\', 'f']
  else if c < ' ' then ['\\', 'u', '0', '0', hexDigit (c.toNat / 16), hexDigit c.toNat]
  else [c]

/-- A string in quotes. -/
def quote (text : String) : String :=
  "\"" ++ String.ofList (text.toList.flatMap escapeChar) ++ "\""

/-- A value without parts; a value that no text can represent is written as the
shortest text that reads as such. -/
def scalar : Json → String
  | .bool true => "true"
  | .bool false => "false"
  | .number value => toString value
  | .decimal literal => literal
  | .string text => quote text
  | .unrepresentable => "\"\\ud800\""
  | _ => "null"

/-- A line break and the indentation of a level. -/
def newline (level : Nat) : String := "\n" ++ String.ofList (List.replicate (2 * level) ' ')

/-- Brackets around parts that are written each on a line of its own. -/
def bracket (left right : String) (level : Nat) (parts : List String) : String :=
  if parts.isEmpty then left ++ right
  else
    left ++ newline (level + 1) ++ String.intercalate ("," ++ newline (level + 1)) parts ++
      newline level ++ right

end Printer

open Printer

mutual

/-- The text of a value on one line. -/
def compact : Json → String
  | .array items => "[" ++ String.intercalate "," (compactItems items) ++ "]"
  | .object members => "\x7b" ++ String.intercalate "," (compactMembers members) ++ "\x7d"
  | value => scalar value

/-- The texts of the items of an array. -/
def compactItems : List Json → List String
  | [] => []
  | item :: items => compact item :: compactItems items

/-- The texts of the members of an object. -/
def compactMembers : List (String × Json) → List String
  | [] => []
  | (key, value) :: members => (quote key ++ ":" ++ compact value) :: compactMembers members

end

mutual

/-- The text of a value over several lines, its first line continuing one of this level. -/
def prettyAt (level : Nat) : Json → String
  | .array items => bracket "[" "]" level (prettyItems (level + 1) items)
  | .object members => bracket "\x7b" "\x7d" level (prettyMembers (level + 1) members)
  | value => scalar value

/-- The texts of the items of an array. -/
def prettyItems (level : Nat) : List Json → List String
  | [] => []
  | item :: items => prettyAt level item :: prettyItems level items

/-- The texts of the members of an object. -/
def prettyMembers (level : Nat) : List (String × Json) → List String
  | [] => []
  | (key, value) :: members =>
    (quote key ++ ": " ++ prettyAt level value) :: prettyMembers level members

end

/-- The text of a value over several lines. -/
def pretty (value : Json) : String := prettyAt 0 value

end RestDeployment.Json
