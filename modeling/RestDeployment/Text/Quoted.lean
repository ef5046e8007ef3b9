import RestDeployment.Text.Unprintable
import RestDeployment.Text.GraphemeExtend
import RestDeployment.Text.Ignorable

/-!
# Quoted text

Values that a user gave are shown in quotes, so that blanks and invisible
characters in them can be told apart: quotes and backslashes are escaped, the
common control characters have short names, and any other character that would
not be seen on its own is shown by its code point.
-/

namespace RestDeployment.Text

/-- The digits of a number in base sixteen, in lower case. -/
def hexDigits (n : Nat) : List Char := Nat.toDigits 16 n

/-- Whether a character has no printed form of its own. -/
def isInvisible (c : Char) : Bool :=
  c < ' ' || '\x7e' < c && (inRanges unprintableRanges c || extendsGrapheme c || isIgnorable c)

/-- A character inside quotes. -/
def quoteChar (c : Char) : List Char :=
  match c with
  | '"' => ['\\', '"']
  | '\\' => ['\\', '\\']
  | '\n' => ['\\', 'n']
  | '\r' => ['\\', 'r']
  | '\t' => ['\\', 't']
  | '\x00' => ['\\', '0']
  | c => if isInvisible c then ['\\', 'u', '{'] ++ hexDigits c.toNat ++ ['}'] else [c]

/-- A text in quotes. -/
def quote (text : String) : String :=
  String.ofList (['"'] ++ text.toList.flatMap quoteChar ++ ['"'])

/-- An optional text: its quoted form, or a word for its absence. -/
def quoteOption : Option String → String
  | some text => "Some(" ++ quote text ++ ")"
  | none => "None"

/-- A list of texts in brackets. -/
def quoteList (texts : List String) : String :=
  "[" ++ String.intercalate ", " (texts.map quote) ++ "]"

end RestDeployment.Text
