import RestDeployment.CommandLine.Arguments
import RestDeployment.CommandLine.Schema
import RestDeployment.CommandLine.Script
import RestDeployment.CommandLine.Summary
import RestDeployment.Config.Codec
import RestDeployment.Deployment.Codec
import RestDeployment.Deployment.Run
import RestDeployment.Json.Printer
import RestDeployment.LogDirectory
import RestDeployment.Manifest

/-!
# Commands

The scripts of the commands.  The directory for logs is made first, unless only the
version is asked for.  The configuration is read before the manifest: from
the file that was named, else from the one in the home directory if there is one.
A report that is asked for as a file is written before anything is printed, so a
failure to write it prints nothing.
-/

namespace RestDeployment.CommandLine

open Deployment (Report Extent)

namespace Command

/-- The end of a command that failed. -/
def fail (message : String) (events : List Event := []) : Script :=
  .done { exitCode := 1, error := some message, events := events }

/-- The end of a command that printed something. -/
def succeed (output : String) (events : List Event := []) : Script :=
  .done { exitCode := 0, output := output, events := events }

/-- Reads a configuration file. -/
def readConfig (path : String) (next : Config → Script) : Script :=
  .read path fun
    | .error e => fail e.message
    | .ok text =>
      match Config.ofText? text with
      | none => fail "invalid json"
      | some config => next config

/-- The configuration file in the home directory. -/
def homeConfig (home : String) : String := joinPath (programDirectory home) "config.json"

/-- Finds the configuration. -/
def withConfig (home : Option String) (named : Option String) (next : Config → Script) : Script :=
  match named, home with
  | some path, _ => readConfig path next
  | none, none => next {}
  | none, some home =>
    .isFile (homeConfig home) fun there =>
      if there then readConfig (homeConfig home) next else next {}

/-- Reads a manifest. -/
def withManifest (path : String) (next : Manifest → Script) : Script :=
  .read path fun
    | .error e => fail e.message
    | .ok text =>
      match Manifest.ofText? text with
      | none => fail ("invalid fixture " ++ path ++ ": invalid json")
      | some manifest => next manifest

/-- The event at the start of a command. -/
def processing (manifest : Manifest) : Event :=
  ⟨.info, "Processing " ++ manifest.deployment ++ " (" ++ toString manifest.units.length ++
    " units)..."⟩

/-- Runs the deployment that a manifest describes. -/
def withReport (extent : Extent) (config : Config) (manifest : Manifest)
    (next : Report → List Event → Script) : Script :=
  let run := Deployment.runFresh config extent manifest.deployment (manifest.build config)
  let events := processing manifest :: Note.events run.notes
  match run.result with
  | .error failure => fail failure.message events
  | .ok report => next report events

/-- Writes a report to a file, if one was named. -/
def writeReport (path : Option String) (report : Report) (events : List Event)
    (next : List Event → Script) : Script :=
  match path with
  | none => next events
  | some path =>
    .write path report.toJson.pretty fun
      | .error e => fail e.message events
      | .ok () => next (events ++ [⟨.info, "Report written to " ++ path⟩])

/-- The exit code of a command that cannot keep a log. -/
def noLogExitCode : Nat := 101

/-- Makes the directory for logs, without which no command runs. -/
def withLogs (directory : String) (next : Script) : Script :=
  .makeDirectory directory fun made =>
    if made then next
    else .done { exitCode := noLogExitCode, error := some "cannot keep a log" }

/-- The script of a request, given the home directory. -/
def script (home : Option String) : Request → Script
  | .version => succeed "jaxscope 0.1.0\n"
  | .schema => succeed (Schema.manifest.pretty ++ "\n")
  | .classify path config only =>
    withConfig home config fun config =>
      withManifest path fun manifest =>
        withReport .scanOnly config manifest fun report events =>
          succeed (Summary.classification report only) events
  | .deploy path config output json sequential =>
    withConfig home config fun config =>
      let config := if sequential then { config with parallel := false } else config
      withManifest path fun manifest =>
        withReport .full config manifest fun report events =>
          writeReport output report events fun events =>
            succeed (if json then report.toJson.pretty ++ "\n" else Summary.deployment report)
              events

/-- The exit code for a command line that is refused. -/
def usageExitCode : Nat := 2

/-- The script of a command line, given the directory for logs and the home
directory. -/
def ofArguments (logs : String) (home : Option String) (arguments : List String) : Script :=
  match Arguments.request? arguments with
  | none => .done { exitCode := usageExitCode, error := some "unexpected arguments" }
  | some .version => script home .version
  | some request => withLogs logs (script home request)

end Command

end RestDeployment.CommandLine
