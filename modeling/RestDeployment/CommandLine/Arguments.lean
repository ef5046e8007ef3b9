/-!
# Command line arguments

A command line names a command, its positional arguments and its options.  An
option is given by its long name, with its value behind an equals sign or in the
next argument, or by its letter, with its value attached or in the next argument.
A value in an argument of its own must not look like an option.  Every option may
be given once; after a double dash all arguments are positional.
-/

namespace RestDeployment.CommandLine

/-- What the user asks for. -/
inductive Request where
  /-- Run a whole deployment and report on it. -/
  | deploy (manifest : String) (config output : Option String) (json sequential : Bool)
  /-- List how the classes of a deployment are classified. -/
  | classify (manifest : String) (config unit : Option String)
  /-- Print the schema of manifests. -/
  | schema
  /-- Print the version. -/
  | version
deriving DecidableEq

/-- What follows the name of an option. -/
inductive Operand where
  | none
  /-- A path, which must not be empty. -/
  | path
  /-- Any text. -/
  | text
deriving DecidableEq

/-- An option of a command. -/
structure OptionSpec where
  name : String
  letter : Option Char
  operand : Operand

/-- The arguments of a command, taken apart. -/
structure Parsed where
  positional : List String := []
  /-- The options that were given, with their values; empty for those without operand. -/
  options : List (String × String) := []

namespace Parsed

/-- The value of an option. -/
def value? (p : Parsed) (name : String) : Option String := p.options.lookup name

/-- Whether an option was given. -/
def has (p : Parsed) (name : String) : Bool := (p.value? name).isSome

/-- Adds an option, which must not have been given before. -/
def addOption (p : Parsed) (name value : String) : Option Parsed :=
  if p.has name then none else some { p with options := (name, value) :: p.options }

/-- Adds positional arguments. -/
def addPositional (p : Parsed) (arguments : List String) : Parsed :=
  { p with positional := p.positional ++ arguments }

end Parsed

namespace Arguments

/-- Whether an argument stands for an option and not for a value. -/
def looksLikeOption (argument : String) : Bool :=
  match argument.toList with
  | '-' :: _ :: _ => true
  | _ => false

/-- Whether an operand accepts a value. -/
def accepts : Operand → String → Bool
  | .none, _ => false
  | .path, value => !value.isEmpty
  | .text, _ => true

/-- An argument taken apart: an option with the value attached to it, if any, the
end of the options, or a positional argument. -/
inductive Argument where
  | option (spec : OptionSpec) (attached : Option String)
  | endOfOptions
  | positional
  | unknown

/-- Takes the text behind two dashes apart. -/
def long (specs : List OptionSpec) (text : List Char) : Argument :=
  let name := String.ofList (text.takeWhile (· ≠ '='))
  let attached := match text.dropWhile (· ≠ '=') with
    | _ :: value => some (String.ofList value)
    | [] => none
  match specs.find? fun s => s.name == name with
  | some spec => .option spec attached
  | none => .unknown

/-- Takes the text behind one dash apart: a letter and what is attached to it. -/
def short (specs : List OptionSpec) (letter : Char) (text : List Char) : Argument :=
  let attached := match text with
    | [] => none
    | '=' :: value => some (String.ofList value)
    | value => some (String.ofList value)
  match specs.find? fun s => s.letter == some letter with
  | some spec => .option spec attached
  | none => .unknown

/-- Takes an argument apart. -/
def classify (specs : List OptionSpec) (argument : String) : Argument :=
  match argument.toList with
  | ['-', '-'] => .endOfOptions
  | '-' :: '-' :: text => long specs text
  | '-' :: letter :: text => short specs letter text
  | _ => .positional

/-- Takes the arguments of a command apart. -/
def parse (specs : List OptionSpec) (p : Parsed) : List String → Option Parsed
  | [] => some p
  | argument :: arguments =>
    match classify specs argument with
    | .unknown => none
    | .endOfOptions => some (p.addPositional arguments)
    | .positional => parse specs (p.addPositional [argument]) arguments
    | .option spec attached =>
      match spec.operand, attached with
      | .none, none => do parse specs (← p.addOption spec.name "") arguments
      | operand, some value => do
        guard (accepts operand value)
        parse specs (← p.addOption spec.name value) arguments
      | operand, none =>
        match arguments with
        | [] => none
        | value :: arguments => do
          guard (!looksLikeOption value && accepts operand value)
          parse specs (← p.addOption spec.name value) arguments

/-- The one path that a command takes. -/
def onePath? (p : Parsed) : Option String :=
  match p.positional with
  | [path] => if path.isEmpty then none else some path
  | _ => none

/-- The option that names a configuration file. -/
def configOption : OptionSpec := ⟨"config", some 'c', .path⟩

/-- The options of `deploy`. -/
def deployOptions : List OptionSpec :=
  [configOption, ⟨"output", some 'o', .path⟩, ⟨"json", none, .none⟩, ⟨"sequential", none, .none⟩]

/-- The options of `classify`. -/
def classifyOptions : List OptionSpec := [configOption, ⟨"unit", none, .text⟩]

/-- The request of a command with these arguments. -/
def command (name : String) (arguments : List String) : Option Request :=
  match name with
  | "deploy" => do
    let p ← parse deployOptions {} arguments
    return .deploy (← onePath? p) (p.value? "config") (p.value? "output") (p.has "json")
      (p.has "sequential")
  | "classify" => do
    let p ← parse classifyOptions {} arguments
    return .classify (← onePath? p) (p.value? "config") (p.value? "unit")
  | "schema" => do
    let p ← parse [] {} arguments
    guard p.positional.isEmpty
    return .schema
  | _ => none

/-- The request of a command line, unless it is refused. -/
def request? : List String → Option Request
  | [] => none
  | argument :: arguments =>
    match argument.toList with
    | '-' :: 'V' :: _ => some .version
    | _ => if argument = "--version" then some .version else command argument arguments

end Arguments

end RestDeployment.CommandLine
