import RestDeployment.Note

/-!
# Scripts

What a command does with files is written down as a script: a tree of questions
to the file system, each with a continuation for every answer, that ends with an
outcome.  A script is a value, so one and the same script can be run against a
disk or against files that are held in memory.
-/

namespace RestDeployment.CommandLine

/-- Why a file could not be read or written. -/
inductive FileError where
  | notFound
  | isDirectory
  | notDirectory
  | nameTooLong
  | other (message : String)
deriving DecidableEq

namespace FileError

/-- The error in words. -/
def message : FileError → String
  | .notFound => "No such file or directory (os error 2)"
  | .isDirectory => "Is a directory (os error 21)"
  | .notDirectory => "Not a directory (os error 20)"
  | .nameTooLong => "File name too long (os error 36)"
  | .other message => message

end FileError

/-- How a command ends: its exit code, what it prints, the error it reports, and
the events it leaves for the log. -/
structure Outcome where
  exitCode : Nat
  output : String := ""
  error : Option String := none
  events : List Event := []

/-- A sequence of questions to the file system that ends with an outcome. -/
inductive Script where
  | done (outcome : Outcome)
  /-- Makes a directory and those on the way to it; the answer is whether it is there. -/
  | makeDirectory (path : String) (next : Bool → Script)
  | isFile (path : String) (next : Bool → Script)
  | read (path : String) (next : Except FileError String → Script)
  | write (path text : String) (next : Except FileError Unit → Script)

end RestDeployment.CommandLine
