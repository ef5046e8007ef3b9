import RestDeployment.Metadata

/-!
# Merging metadata

A unit inherits the classes of the units it depends on.  `Metadata.absorb` joins
two sets of classes, `Metadata.mergeAll` joins those of all dependencies that
have any and restores the precedence of classes once at the end.  The flags and
the policy of the inheriting unit stay as they are.
-/

namespace RestDeployment

namespace Application

/-- The smaller of two paths; a path wins over none. -/
def joinPath : Option String → Option String → Option String
  | some p, some q => some (if q < p then q else p)
  | some p, none => some p
  | none, q => q

/-- An application as two units know it: the smaller of its paths counts. -/
def join (ours theirs : Application) : Application :=
  { ours with path := joinPath ours.path theirs.path }

end Application

namespace Metadata

/-- Adds an application under a key, joined with what is there. -/
def joinApplication (applications : NameMap Application) (entry : String × Application) :
    NameMap Application :=
  match applications.get? entry.1 with
  | some ours => applications.insert entry.1 (ours.join entry.2)
  | none => applications.insert entry.1 entry.2

/-- The metadata with the classes of another unit added. -/
def absorb (target other : Metadata) : Metadata :=
  { target with
    applications := other.applications.entries.foldl joinApplication target.applications
    providers := target.providers ∪ other.providers
    resources := target.resources ∪ other.resources
    jndiResources := target.jndiResources ∪ other.jndiResources }

end Metadata

/-- What a merge did. -/
structure MergeReport where
  /-- The dependencies that contributed, in order. -/
  merged : List String
  /-- The dependencies without metadata, in order. -/
  missing : List String
  /-- The names that lost a place to the precedence of classes. -/
  dropped : List String
deriving DecidableEq

namespace Metadata

/-- The names of a list that have not been seen, each at its first place. -/
def firstOccurrences (seen : List String) : List String → List String
  | [] => []
  | d :: ds => if d ∈ seen then firstOccurrences seen ds else d :: firstOccurrences (d :: seen) ds

/-- The dependencies that count: each once, at its first place, and not the unit itself. -/
def distinctDependencies (unit : String) (dependencies : List String) : List String :=
  firstOccurrences [unit] dependencies

/-- Joins the metadata of every dependency of a unit into its own. -/
def mergeAll (lookup : String → Option Metadata) (unit : String) (target : Metadata)
    (dependencies : List String) : Metadata × MergeReport :=
  let ds := distinctDependencies unit dependencies
  let joined := (ds.filterMap lookup).foldl absorb target
  (joined.exclusive,
    { merged := ds.filter fun d => (lookup d).isSome
      missing := ds.filter fun d => (lookup d).isNone
      dropped := joined.overlap })

end Metadata

end RestDeployment
