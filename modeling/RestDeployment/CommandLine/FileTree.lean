import RestDeployment.CommandLine.Script
import RestDeployment.NameMap

/-!
# Files in memory

A file tree holds the files below one directory by their paths, and runs scripts
on them.  Paths are relative to that directory.  Of what lies outside of it, the
directories above hold nothing else, and the file system has the directories that
are found on every system and a null device.  No path and no name in one may be
longer than a file system allows.
-/

namespace RestDeployment.CommandLine

/-- Files by path, and directories that exist without files. -/
structure FileTree where
  files : NameMap String := ∅
  directories : List (List String) := []

namespace FileTree

/-! ### Places -/

/-- Where a path is followed: below the directory of the tree, in the directories
above it, or in the file system from its top. -/
inductive Region where
  | inside
  | above
  | system
deriving DecidableEq

/-- A place in one of the regions, by the segments below the top of that region. -/
structure Place where
  region : Region
  path : List String

/-- The place one step up.  There is always a directory above. -/
def Place.parent (place : Place) : Place :=
  if place.region = .inside ∧ place.path = [] then ⟨.above, []⟩
  else { place with path := place.path.dropLast }

/-- The place one step down. -/
def Place.child (place : Place) (name : String) : Place :=
  { place with path := place.path ++ [name] }

/-! ### Entries -/

/-- What stands at a place. -/
inductive Entry where
  | file (text : String)
  | directory
  | missing

/-- The segments of a path. -/
def segments (path : String) : List String := path.splitOn "/"

/-- The path of segments. -/
def pathOf (path : List String) : String := String.intercalate "/" path

/-- Whether a segment leads to the directory that it starts from. -/
def isIdle (segment : String) : Bool := segment = "" || segment = "."

/-- The segments of a path that goes straight down. -/
def descent (path : String) : List String := (segments path).filter fun segment => !isIdle segment

/-- The tree with these files, whose paths go straight down. -/
def ofList (files : List (String × String)) : FileTree where
  files := NameMap.ofList (files.map fun file => (pathOf (descent file.1), file.2))

/-- Whether segments lead to a directory or lie on the way to one or to a file. -/
def isDirectory (t : FileTree) (path : List String) : Bool :=
  path.isEmpty || t.directories.any (fun d => path.isPrefixOf d) ||
    t.files.keys.toList.any fun file => path.isPrefixOf (segments file).dropLast

/-- What stands below the directory of the tree. -/
def entryBelow (t : FileTree) (path : List String) : Entry :=
  match t.files.get? (pathOf path) with
  | some text => .file text
  | none => if t.isDirectory path then .directory else .missing

/-- What every file system has. -/
def system : FileTree where
  files := NameMap.ofList [("dev/null", "")]
  directories := ["bin", "dev", "etc", "home", "lib", "opt", "proc", "root", "run", "sbin", "sys",
    "tmp", "usr", "var"].map fun name => [name]

/-- What stands at a place. -/
def entryAt (t : FileTree) (place : Place) : Entry :=
  match place.region with
  | .inside => t.entryBelow place.path
  | .above => if place.path = [] then .directory else .missing
  | .system => system.entryBelow place.path

/-! ### Following paths -/

/-- Whether a name is longer than 255 bytes, which no directory entry is. -/
def isLongName (name : String) : Bool := 255 < name.utf8ByteSize

/-- Whether a path has 4096 bytes or more, with which it is refused unseen. -/
def isLongPath (path : String) : Bool := 4096 ≤ path.utf8ByteSize

/-- Follows the segments of a path from a place; everything on the way has to be
a directory. -/
def walk (t : FileTree) (place : Place) : List String → Except FileError Place
  | [] => .ok place
  | segment :: path =>
    match t.entryAt place with
    | .file _ => .error .notDirectory
    | .missing => .error .notFound
    | .directory =>
      if isIdle segment then walk t place path
      else if segment = ".." then walk t place.parent path
      else if isLongName segment then .error .nameTooLong
      else walk t (place.child segment) path

/-- The place where a path begins. -/
def start (path : String) : Place := ⟨if path.startsWith "/" then .system else .inside, []⟩

/-- The place that a path leads to. -/
def locate (t : FileTree) (path : String) : Except FileError Place :=
  if isLongPath path then .error .nameTooLong else t.walk (start path) (segments path)

/-- The place for a file that is to be written.  A path that ends with a slash
names a directory, whether it is there or not. -/
def locateNew (t : FileTree) (path : String) : Except FileError Place :=
  if path.endsWith "/" && !isLongPath path then do
    let named := (segments path).reverse.dropWhile (· = "")
    let _ ← t.walk (start path) ((named.drop 1).reverse ++ [""])
    throw .isDirectory
  else t.locate path

/-! ### Reading and writing -/

/-- The text of a file. -/
def read (t : FileTree) (path : String) : Except FileError String := do
  match t.entryAt (← t.locate path) with
  | .file text => return text
  | .directory => throw .isDirectory
  | .missing => throw .notFound

/-- Whether a path leads to a file. -/
def isFile (t : FileTree) (path : String) : Bool := (t.read path).isOk

/-- The tree with a text written to a file; one outside of it is not recorded. -/
def write (t : FileTree) (path text : String) : Except FileError FileTree := do
  let place ← t.locateNew path
  match t.entryAt place, place.region with
  | .directory, _ => throw .isDirectory
  | _, .inside => return { t with files := t.files.insert (pathOf place.path) text }
  | _, _ => return t

/-- The tree with a directory at a path that goes straight down, unless a file is in
the way. -/
def makeDirectory (t : FileTree) (path : String) : Option FileTree :=
  let place := descent path
  if path.startsWith "/" then some t
  else if (List.range place.length).any fun n =>
      (t.files.get? (pathOf (place.take (n + 1)))).isSome then none
  else some { t with directories := place :: t.directories }

/-- Runs a script; the result is its outcome and the tree it leaves. -/
def run (t : FileTree) : Script → Outcome × FileTree
  | .done outcome => (outcome, t)
  | .makeDirectory path next =>
    match t.makeDirectory path with
    | some made => made.run (next true)
    | none => t.run (next false)
  | .isFile path next => t.run (next (t.isFile path))
  | .read path next => t.run (next (t.read path))
  | .write path text next =>
    match t.write path text with
    | .ok written => written.run (next (.ok ()))
    | .error e => t.run (next (.error e))

end FileTree

end RestDeployment.CommandLine
