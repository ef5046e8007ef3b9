/-!
# The log directory

Logs go to a directory that the environment names, or else to one in the home
directory.
-/

namespace RestDeployment

/-- A path with one more segment.  No second slash follows one that ends the path,
and none begins a path that was empty. -/
def joinPath (path segment : String) : String :=
  if path.isEmpty then segment
  else if path.endsWith "/" then path ++ segment
  else path ++ "/" ++ segment

/-- The directory below the home directory that belongs to the program. -/
def programDirectory (home : String) : String := joinPath home ".jaxscope"

/-- The directory for logs, given what the environment names and the home
directory; without either the current directory takes its place. -/
def logDirectory (named home : Option String) : String :=
  match named with
  | some directory => directory
  | none => joinPath (programDirectory (home.getD ".")) "logs"

end RestDeployment
