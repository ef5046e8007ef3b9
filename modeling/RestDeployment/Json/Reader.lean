import RestDeployment.Json.Token

/-!
# Reading JSON texts

`Json.read?` reads a text that holds exactly one value.  The reader is a
pushdown automaton over the tokens: it keeps the arrays and objects that are
still open, so nesting costs no recursion and the text may nest to any depth.

`Json.readStored?` reads a text whose value is held as a whole before anything
is taken from it.  Then everything in it has to stand for a value, nesting is
limited, and of repeated members the last counts.
-/

namespace RestDeployment.Json

namespace Reader

/-- An array or object that is still open; what it holds so far is reversed. -/
inductive Frame where
  | array (items : List Json)
  | object (members : List (Option String × Json))
  /-- An object with a key whose value is still to come. -/
  | member (members : List (Option String × Json)) (key : Option String)

/-- What may come next. -/
inductive Expected where
  | value
  | valueOrEnd
  | key
  | keyOrEnd
  | colon
  | separator
  | nothing

/-- The open arrays and objects, innermost first, what may come next, and the
value that was completed last. -/
structure State where
  frames : List Frame
  expected : Expected
  value : Json

/-- Before the first token. -/
def State.start : State := ⟨[], .value, .null⟩

/-- The value of a completed object; it has none if one of its keys has none. -/
def objectOf (members : List (Option String × Json)) : Json :=
  match members.mapM fun member => member.1.map fun key => (key, member.2) with
  | some members => .object members
  | none => .unrepresentable

/-- Puts a completed value into the innermost open array or object. -/
def complete (frames : List Frame) (value : Json) : Option State :=
  match frames with
  | [] => some ⟨[], .nothing, value⟩
  | .array items :: frames => some ⟨.array (value :: items) :: frames, .separator, value⟩
  | .member members key :: frames =>
    some ⟨.object ((key, value) :: members) :: frames, .separator, value⟩
  | .object _ :: _ => none

/-- Closes the innermost array. -/
def closeArray : List Frame → Option State
  | .array items :: frames => complete frames (.array items.reverse)
  | _ => none

/-- Closes the innermost object. -/
def closeObject : List Frame → Option State
  | .object members :: frames => complete frames (objectOf members.reverse)
  | _ => none

/-- Reads a key. -/
def openMember (key : Option String) : List Frame → Option State
  | .object members :: frames => some ⟨.member members key :: frames, .colon, .null⟩
  | _ => none

/-- The value of a string token. -/
def textValue (content : Option String) : Json :=
  match content with
  | some text => .string text
  | none => .unrepresentable

/-- Reads the first token of a value. -/
def beginValue (frames : List Frame) : Token → Option State
  | .openArray => some ⟨.array [] :: frames, .valueOrEnd, .null⟩
  | .openObject => some ⟨.object [] :: frames, .keyOrEnd, .null⟩
  | .scalar value => complete frames value
  | .text content => complete frames (textValue content)
  | _ => none

/-- Reads a separator or the end of an array or object after one of its parts. -/
def afterPart (frames : List Frame) : Token → Option State
  | .comma =>
    match frames with
    | .array _ :: _ => some ⟨frames, .value, .null⟩
    | .object _ :: _ => some ⟨frames, .key, .null⟩
    | _ => none
  | .closeArray => closeArray frames
  | .closeObject => closeObject frames
  | _ => none

/-- Reads one token. -/
def step (state : State) (token : Token) : Option State :=
  match state.expected with
  | .value => beginValue state.frames token
  | .valueOrEnd =>
    match token with
    | .closeArray => closeArray state.frames
    | _ => beginValue state.frames token
  | .key =>
    match token with
    | .text key => openMember key state.frames
    | _ => none
  | .keyOrEnd =>
    match token with
    | .closeObject => closeObject state.frames
    | .text key => openMember key state.frames
    | _ => none
  | .colon =>
    match token with
    | .colon => some { state with expected := .value }
    | _ => none
  | .separator => afterPart state.frames token
  | .nothing => none

end Reader

/-- The value of a text that holds one value and nothing else. -/
def read? (text : String) : Option Json := do
  let tokens ← Token.scan text
  let final ← tokens.foldlM Reader.step Reader.State.start
  match final.expected with
  | .nothing => some final.value
  | _ => none

/-- The value of a text that is held as a whole. -/
def readStored? (text : String) : Option Json := do
  let value ← read? text
  if value.storable nestingLimit then some value.lastWins else none

end RestDeployment.Json
