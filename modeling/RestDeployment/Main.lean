import RestDeployment.CommandLine.Command

/-!
# The program

Runs the script of a command line against the disk.
-/

namespace RestDeployment.Program

open CommandLine

/-- The error of a file operation.  Some operations report the system's code negated. -/
def fileError (e : IO.Error) : FileError :=
  match e with
  | .noFileOrDirectory .. => .notFound
  | .inappropriateType _ code _ =>
    if code = 21 || code = -21 then .isDirectory else .notDirectory
  | .invalidArgument _ code _ =>
    if code = 36 || code = -36 then .nameTooLong else .other (toString e)
  | e => .other (toString e)

/-- Reads a file. -/
def readFile (path : String) : IO (Except FileError String) := do
  try
    return .ok (← IO.FS.readFile path)
  catch e =>
    return .error (fileError e)

/-- Writes a file. -/
def writeFile (path text : String) : IO (Except FileError Unit) := do
  try
    IO.FS.writeFile path text
    return .ok ()
  catch e =>
    return .error (fileError e)

/-- Makes a directory and those on the way to it, unless it is there; answers whether
it is there now. -/
def makeDirectory (path : String) : IO Bool := do
  try
    IO.FS.createDirAll path
    return true
  catch _ =>
    return false

/-- Runs a script against the disk. -/
def runScript : Script → IO Outcome
  | .done outcome => return outcome
  | .makeDirectory path next => do runScript (next (← makeDirectory path))
  | .isFile path next => do runScript (next (← readFile path).isOk)
  | .read path next => do runScript (next (← readFile path))
  | .write path text next => do runScript (next (← writeFile path text))

/-- Prints the outcome of a command: its events and its error on the error
stream, its output on the standard one. -/
def report (outcome : Outcome) : IO UInt32 := do
  for event in outcome.events do
    if event.level != .debug then
      IO.eprintln (event.level.name ++ " " ++ event.message)
  IO.print outcome.output
  if let some message := outcome.error then
    IO.eprintln ("\x1b[1;31merror:\x1b[0m " ++ message)
  return outcome.exitCode.toUInt32

end RestDeployment.Program

/-- Runs the command that the arguments name. -/
def main (arguments : List String) : IO UInt32 := do
  let home ← IO.getEnv "HOME"
  let logs := RestDeployment.logDirectory (← IO.getEnv "JAXSCOPE_LOG_DIR") home
  let outcome ← RestDeployment.Program.runScript
    (RestDeployment.CommandLine.Command.ofArguments logs home arguments)
  RestDeployment.Program.report outcome
