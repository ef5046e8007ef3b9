import RestDeployment.Fault

/-!
# Notes taken while processing

Processing a unit leaves two kinds of notes behind: events for the log, and
findings, which are kept with the unit and reported.  They come in one sequence;
`events` and `findings` take it apart.

`Traced` is a value with the notes taken on the way to it.  `Attempt` is a step
on a state that may fail: its answer or fault, the state it leaves behind, and
the notes.  A step that fails says itself in which state it stops.
-/

namespace RestDeployment

/-- How important an event is. -/
inductive Level where
  | warn
  | info
  | debug
deriving DecidableEq

namespace Level

/-- The name of a level. -/
def name : Level → String
  | .warn => "WARN"
  | .info => "INFO"
  | .debug => "DEBUG"

end Level

/-- A line for the log. -/
structure Event where
  level : Level
  message : String
deriving DecidableEq

/-- What a finding is about. -/
inductive FindingKind where
  /-- An annotation stands on an element it is not meant for. -/
  | malformedTarget
  /-- A candidate was passed over because it is a decorator. -/
  | decoratorExcluded
  /-- A class matched more than one classification. -/
  | classificationOverlap
  /-- More than one URL pattern is mapped to a dispatcher servlet. -/
  | multipleUrlPatterns
deriving DecidableEq

namespace FindingKind

/-- The name of a kind of finding. -/
def name : FindingKind → String
  | .malformedTarget => "malformed_target"
  | .decoratorExcluded => "decorator_excluded"
  | .classificationOverlap => "classification_overlap"
  | .multipleUrlPatterns => "multiple_url_patterns"

/-- The kind of a name. -/
def ofName? : String → Option FindingKind
  | "malformed_target" => some .malformedTarget
  | "decorator_excluded" => some .decoratorExcluded
  | "classification_overlap" => some .classificationOverlap
  | "multiple_url_patterns" => some .multipleUrlPatterns
  | _ => none

end FindingKind

/-- Something noticed about a unit that does not stop its deployment. -/
structure Finding where
  kind : FindingKind
  subject : String
  message : String
deriving DecidableEq

/-- A note: an event for the log or a finding about the unit. -/
inductive Note where
  | event (event : Event)
  | finding (finding : Finding)
deriving DecidableEq

namespace Note

/-- An event of high importance. -/
def warn (message : String) : Note := .event ⟨.warn, message⟩

/-- An event of normal importance. -/
def info (message : String) : Note := .event ⟨.info, message⟩

/-- An event of low importance. -/
def debug (message : String) : Note := .event ⟨.debug, message⟩

/-- A note of a finding. -/
def found (kind : FindingKind) (subject message : String) : Note :=
  .finding ⟨kind, subject, message⟩

/-- The event of a note. -/
def event? : Note → Option Event
  | .event e => some e
  | .finding _ => none

/-- The finding of a note. -/
def finding? : Note → Option Finding
  | .event _ => none
  | .finding f => some f

/-- The events among notes, in order. -/
def events (notes : List Note) : List Event := notes.filterMap event?

/-- The findings among notes, in order. -/
def findings (notes : List Note) : List Finding := notes.filterMap finding?

@[simp] theorem findings_append (l₁ l₂ : List Note) :
    findings (l₁ ++ l₂) = findings l₁ ++ findings l₂ :=
  List.filterMap_append

theorem findings_flatMap {α : Type} (l : List α) (f : α → List Note) :
    findings (l.flatMap f) = l.flatMap fun a => findings (f a) :=
  List.filterMap_flatMap

end Note

/-- The findings of one kind, in order. -/
def Finding.ofKind (findings : List Finding) (kind : FindingKind) : List Finding :=
  findings.filter fun f => f.kind == kind

/-- A value with the notes taken on the way to it. -/
structure Traced (α : Type) where
  value : α
  notes : List Note := []

/-- A step on a state: its answer or the fault that stopped it, the state it
leaves behind, and the notes taken. -/
structure Attempt (σ α : Type) where
  result : Except Fault α
  state : σ
  notes : List Note := []

end RestDeployment
