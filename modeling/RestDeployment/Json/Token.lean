import RestDeployment.Json

/-!
# The tokens of a JSON text

`Token.scan` splits a text into brackets, separators, strings and words.  A word
is a run of other characters; it has to spell `null`, a Boolean or a number.
Blanks are the space, the tab, the line feed and the carriage return, and they
only separate.
-/

namespace RestDeployment.Json

/-- A lexical unit of a JSON text. -/
inductive Token where
  | openObject
  | closeObject
  | openArray
  | closeArray
  | comma
  | colon
  /-- The value of a word. -/
  | scalar (value : Json)
  /-- A string; none if an unpaired surrogate escape leaves it without a text. -/
  | text (content : Option String)

namespace Token

/-! ### Numbers -/

/-- The value of a decimal digit. -/
def digitValue (c : Char) : Nat := c.toNat - '0'.toNat

/-- The number that decimal digits spell. -/
def digitsValue (digits : List Char) : Nat := digits.foldl (fun n c => 10 * n + digitValue c) 0

/-- Reads digits after the significand `found` for as long as it fits in 64 bits;
the result is the significand and the number of digits left out. -/
def gather (found : Nat) : List Char → Nat × Nat
  | [] => (found, 0)
  | c :: digits =>
    let next := 10 * found + digitValue c
    if next < Nat.pow 2 64 then gather next digits else (found, digits.length + 1)

/-- The significand of a number and the power of ten that it is multiplied with.
A digit of the whole part that is left out raises the power, a digit of the
fraction that is taken lowers it. -/
def scaled (whole fraction : List Char) (exponent : Int) : Nat × Int :=
  let (found, skippedWhole) := gather 0 whole
  let (significand, skippedFraction) := gather found fraction
  (significand, exponent + skippedWhole - (fraction.length - skippedFraction))

/-- A number rounded to 53 binary digits; a half goes to the even neighbour. -/
def roundToDouble (n : Nat) : Nat :=
  let unit := Nat.pow 2 (n.log2 - 52)
  let below := n / unit
  let rest := n % unit
  if unit < 2 * rest || unit == 2 * rest && below % 2 == 1 then (below + 1) * unit
  else below * unit

/-- The least magnitude that rounds to no finite double: half a unit in the last
place above the largest of them. -/
def doubleRange : Nat := Nat.pow 2 1024 - Nat.pow 2 970

/-- Whether a significand times a power of ten is too large for a double.  Both
factors are rounded before they are multiplied, and no power above the 308th has
a double of its own. -/
def outOfRange (significand : Nat) (exponent : Int) : Bool :=
  if exponent < 0 then false
  else if 308 < exponent then significand ≠ 0
  else doubleRange ≤ roundToDouble significand * roundToDouble (Nat.pow 10 exponent.toNat)

/-- Splits a run of digits, which must not be empty, off a text. -/
def digits? (cs : List Char) : Option (List Char × List Char) :=
  match cs.takeWhile Char.isDigit with
  | [] => none
  | digits => some (digits, cs.dropWhile Char.isDigit)

/-- The whole part of a number: digits without a leading zero. -/
def whole? (cs : List Char) : Option (List Char × List Char) :=
  match digits? cs with
  | some ('0' :: _ :: _, _) => none
  | split => split

/-- The fraction of a number, empty if there is none. -/
def fraction? : List Char → Option (List Char × List Char)
  | '.' :: cs => digits? cs
  | cs => some ([], cs)

/-- The exponent of a number, zero if there is none; it ends the number. -/
def exponent? : List Char → Option Int
  | [] => some 0
  | e :: cs =>
    if e = 'e' ∨ e = 'E' then
      let (negative, cs) := match cs with
        | '-' :: cs => (true, cs)
        | '+' :: cs => (false, cs)
        | cs => (false, cs)
      match digits? cs with
      | some (digits, []) =>
        let size : Int := digitsValue digits
        some (if negative then -size else size)
      | _ => none
    else none

/-- The value of a word that spells a number. -/
def number? (word : List Char) : Option Json := do
  let (negative, cs) := match word with
    | '-' :: cs => (true, cs)
    | cs => (false, cs)
  let (whole, afterWhole) ← whole? cs
  let (fraction, afterFraction) ← fraction? afterWhole
  let exponent ← exponent? afterFraction
  let size := digitsValue (whole ++ fraction)
  let (significand, power) := scaled whole fraction exponent
  if outOfRange significand power then
    return .unrepresentable
  else if afterWhole.isEmpty && !(negative && size == 0) then
    return .number (if negative then -size else size)
  else
    return .decimal (String.ofList word)

/-- The value that a word spells. -/
def word? (word : List Char) : Option Json :=
  if word = "null".toList then some .null
  else if word = "true".toList then some (.bool true)
  else if word = "false".toList then some (.bool false)
  else number? word

/-! ### Strings -/

/-- The value of a hexadecimal digit. -/
def hexDigit? (c : Char) : Option Nat :=
  if '0' ≤ c ∧ c ≤ '9' then some (c.toNat - '0'.toNat)
  else if 'a' ≤ c ∧ c ≤ 'f' then some (c.toNat - 'a'.toNat + 10)
  else if 'A' ≤ c ∧ c ≤ 'F' then some (c.toNat - 'A'.toNat + 10)
  else none

/-- The code unit that four hexadecimal digits spell. -/
def codeUnit? (a b c d : Char) : Option Nat := do
  return (((← hexDigit? a) * 16 + (← hexDigit? b)) * 16 + (← hexDigit? c)) * 16 + (← hexDigit? d)

/-- The character that a backslash and this letter stand for. -/
def shortEscape? : Char → Option Char
  | '"' => some '"'
  | '\\' => some '\\'
  | '/' => some '/'
  | 'b' => some '\x08'
  | 'f' => some '\x0c'
  | 'n' => some '\n'
  | 'r' => some '\r'
  | 't' => some '\t'
  | _ => none

/-- A part of a string body: a character, or one half of a surrogate pair. -/
inductive Piece where
  | char (c : Char)
  | high (unit : Nat)
  | low (unit : Nat)

/-- The piece that the code unit of an escape stands for. -/
def Piece.ofUnit (unit : Nat) : Piece :=
  if 0xD800 ≤ unit ∧ unit < 0xDC00 then .high unit
  else if 0xDC00 ≤ unit ∧ unit < 0xE000 then .low unit
  else .char (Char.ofNat unit)

/-- The pieces of a string body, unless an escape is malformed or a control
character stands in it. -/
def pieces? : List Char → Option (List Piece)
  | [] => some []
  | '\\' :: 'u' :: a :: b :: c :: d :: rest => do
    let unit ← codeUnit? a b c d
    return Piece.ofUnit unit :: (← pieces? rest)
  | '\\' :: c :: rest => do
    let c ← shortEscape? c
    return .char c :: (← pieces? rest)
  | c :: rest => do
    guard (c ≠ '\\' ∧ ' ' ≤ c)
    return .char c :: (← pieces? rest)

/-- The text of pieces in which every surrogate is half of a pair. -/
def joinPieces? : List Piece → Option (List Char)
  | [] => some []
  | .char c :: rest => (joinPieces? rest).map (c :: ·)
  | .high unit :: .low unit' :: rest =>
    let c := Char.ofNat (0x10000 + (unit - 0xD800) * 0x400 + (unit' - 0xDC00))
    (joinPieces? rest).map (c :: ·)
  | .high _ :: _ => none
  | .low _ :: _ => none

/-- The string token with this body, unless the body is malformed. -/
def string? (body : List Char) : Option Token :=
  (pieces? body).map fun pieces => .text ((joinPieces? pieces).map String.ofList)

/-! ### Scanning -/

/-- Where the scanner stands between two characters; what has been seen of the
current word or string is reversed. -/
inductive Mode where
  | between
  | word (seen : List Char)
  | string (seen : List Char)
  | escape (seen : List Char)

/-- Whether a character is a blank. -/
def isBlank (c : Char) : Bool := c = ' ' || c = '\t' || c = '\n' || c = '\r'

/-- The token of a bracket or separator. -/
def punctuation? : Char → Option Token
  | '{' => some .openObject
  | '}' => some .closeObject
  | '[' => some .openArray
  | ']' => some .closeArray
  | ',' => some .comma
  | ':' => some .colon
  | _ => none

/-- Reads a character at which no word or string is open, after the tokens `found`. -/
def scanBetween (found : List Token) (c : Char) : Mode × List Token :=
  if isBlank c then (.between, found)
  else if c = '"' then (.string [], found)
  else match punctuation? c with
    | some token => (.between, token :: found)
    | none => (.word [c], found)

/-- Whether a character ends a word. -/
def endsWord (c : Char) : Bool := isBlank c || c = '"' || (punctuation? c).isSome

/-- Reads one character; the tokens found so far are reversed. -/
def scanChar (mode : Mode) (found : List Token) (c : Char) : Option (Mode × List Token) :=
  match mode with
  | .between => some (scanBetween found c)
  | .word seen =>
    if endsWord c then (word? seen.reverse).map fun value => scanBetween (.scalar value :: found) c
    else some (.word (c :: seen), found)
  | .string seen =>
    if c = '"' then (string? seen.reverse).map fun token => (.between, token :: found)
    else if c = '\\' then some (.escape (c :: seen), found)
    else some (.string (c :: seen), found)
  | .escape seen => some (.string (c :: seen), found)

/-- Reads the rest of a text. -/
def scanFrom (mode : Mode) (found : List Token) : List Char → Option (List Token)
  | [] =>
    match mode with
    | .between => some found.reverse
    | .word seen => (word? seen.reverse).map fun value => (.scalar value :: found).reverse
    | _ => none
  | c :: cs =>
    match scanChar mode found c with
    | none => none
    | some (mode, found) => scanFrom mode found cs

/-- The tokens of a text, if all of it splits into tokens. -/
def scan (text : String) : Option (List Token) := scanFrom .between [] text.toList

end Token

end RestDeployment.Json
