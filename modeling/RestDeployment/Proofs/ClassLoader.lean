import RestDeployment.ClassIndex

/-!
# What is expected of class loaders

A class loader may answer as it likes.  Two things can be expected of it: that it loads a class
under the name that it was asked for (`KeepsNames`), and that it says of this name that it was
not found if it cannot load it (`NamesMissing`).  `fault?` is the fault that a name leads to where
it has to be loaded.
-/

namespace RestDeployment.ClassLoader

variable {loader : ClassLoader} {n : String}

/-- Classes are loaded under the names that were asked for. -/
def KeepsNames (loader : ClassLoader) : Prop :=
  ∀ n handle, loader.load n = .ok handle → handle.name = n

/-- A loader that cannot load a class says so of the name that was asked for. -/
def NamesMissing (loader : ClassLoader) : Prop :=
  ∀ n e, loader.load n = .error e → e = .notFound n

/-- The name under which a class is loaded. -/
def nameOf? (loader : ClassLoader) (n : String) : Option String :=
  match loader.load n with
  | .ok handle => some handle.name
  | .error _ => none

/-- The fault at which a class stops whoever needs it, if it cannot be loaded. -/
def fault? (loader : ClassLoader) (n : String) : Option Fault :=
  match loader.load n with
  | .ok _ => none
  | .error e => some (.ofLoadError e)

theorem fault?_eq_none_iff : loader.fault? n = none ↔ ∃ handle, loader.load n = .ok handle := by
  cases hload : loader.load n <;> simp [fault?, hload]

theorem fault?_eq_some_iff {fault : Fault} :
    loader.fault? n = some fault ↔ ∃ e, loader.load n = .error e ∧ fault = .ofLoadError e := by
  cases hload : loader.load n with
  | ok handle => simp [fault?, hload]
  | error e => simp [fault?, hload, eq_comm]

end RestDeployment.ClassLoader
