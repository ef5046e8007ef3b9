import RestDeployment.Proofs.ClassTable
import RestDeployment.Registration

/-!
# Plans for applications

A plan is drawn up application by application.  The first one that cannot be loaded stops it
(`plan_value_eq_error_iff`).  If all of them can be loaded, the plan consists of what is to be
added for the names under which they were loaded, one after the other, and so do its notes
(`plan_eq_of_loads`).  A loader that loads classes under the names it was asked for makes these
the names of the applications (`loadedNames_eq`).
-/

namespace RestDeployment

namespace Registration

variable {d : Dispatcher} {loader : ClassLoader} {web : WebDescriptor} {names : List String}
  {n : String}

/-- The names under which applications are loaded. -/
def loadedNames (loader : ClassLoader) (names : List String) : List String :=
  names.filterMap loader.nameOf?

/-- What is to be added for some names: what is to be added for each of them, in order. -/
def planFor (d : Dispatcher) (web : WebDescriptor) (names : List String) : Plan where
  servlets := names.flatMap fun n => (planOf d web n).servlets
  mappings := names.flatMap fun n => (planOf d web n).mappings
  ignorePath := names.any fun n => (planOf d web n).ignorePath

theorem mem_loadedNames :
    n ∈ loadedNames loader names ↔
      ∃ k ∈ names, ∃ handle, loader.load k = .ok handle ∧ handle.name = n := by
  have hname : ∀ k, loader.nameOf? k = some n ↔
      ∃ handle, loader.load k = .ok handle ∧ handle.name = n := fun k => by
    cases hload : loader.load k <;> simp [ClassLoader.nameOf?, hload]
  simp only [loadedNames, List.mem_filterMap, hname]

theorem loadedNames_cons {handle : ClassHandle} (hload : loader.load n = .ok handle) :
    loadedNames loader (n :: names) = handle.name :: loadedNames loader names := by
  have hname : loader.nameOf? n = some handle.name := by rw [ClassLoader.nameOf?, hload]
  exact List.filterMap_cons_some hname

theorem loadedNames_eq (hnames : loader.KeepsNames)
    (hloads : ∀ n ∈ names, ∃ handle, loader.load n = .ok handle) :
    loadedNames loader names = names := by
  induction names with
  | nil => rfl
  | cons n names ih =>
      obtain ⟨⟨handle, hload⟩, htail⟩ := List.forall_mem_cons.mp hloads
      rw [loadedNames_cons hload, hnames n handle hload, ih htail]

/-- **A plan for applications that can be loaded** is made of the plans for their names. -/
theorem plan_eq_of_loads (d : Dispatcher) (web : WebDescriptor)
    (hloads : ∀ n ∈ names, ∃ handle, loader.load n = .ok handle) :
    plan d loader web names =
      { value := .ok (planFor d web (loadedNames loader names))
        notes := (loadedNames loader names).flatMap (planNotes d web) } := by
  induction names with
  | nil => rfl
  | cons n names ih =>
      obtain ⟨⟨handle, hload⟩, htail⟩ := List.forall_mem_cons.mp hloads
      rw [plan, hload, ih htail, loadedNames_cons hload]
      rfl

/-- **The first application that cannot be loaded stops the plan.** -/
theorem plan_value_eq_error_iff (d : Dispatcher) (web : WebDescriptor) {fault : Fault} :
    (plan d loader web names).value = .error fault ↔
      names.findSome? loader.fault? = some fault := by
  induction names with
  | nil => simp [plan]
  | cons n names ih =>
      cases hload : loader.load n with
      | error e => simp [plan, hload, ClassLoader.fault?]
      | ok handle =>
          -- a fault of the rest is passed on
          have hrest : (plan d loader web (n :: names)).value = .error fault ↔
              (plan d loader web names).value = .error fault := by
            cases hvalue : (plan d loader web names).value <;>
              simp [plan, hload, hvalue, Except.map]
          have hnone : loader.fault? n = none := ClassLoader.fault?_eq_none_iff.mpr ⟨_, hload⟩
          rw [hrest, ih, List.findSome?_cons, hnone]

/-- A plan can be made exactly if all applications can be loaded. -/
theorem isOk_plan_iff (d : Dispatcher) (loader : ClassLoader) (web : WebDescriptor)
    (names : List String) :
    (∃ p, (plan d loader web names).value = .ok p) ↔
      ∀ n ∈ names, ∃ handle, loader.load n = .ok handle := by
  constructor
  · rintro ⟨p, hplan⟩
    have hnone : names.findSome? loader.fault? = none := by
      cases hfault : names.findSome? loader.fault? with
      | none => rfl
      | some fault =>
          rw [(plan_value_eq_error_iff d web).mpr hfault] at hplan
          cases hplan
    intro n hn
    exact ClassLoader.fault?_eq_none_iff.mp (List.findSome?_eq_none_iff.mp hnone n hn)
  · intro hloads
    exact ⟨_, congrArg Traced.value (plan_eq_of_loads d web hloads)⟩

/-- Where classes are loaded under the names that were asked for, a plan is put together
from the plans of the single applications. -/
theorem plan_value_eq_ok {p : Plan} (hnames : loader.KeepsNames)
    (h : (plan d loader web names).value = .ok p) : p = planFor d web names := by
  have hloads := (isOk_plan_iff d loader web names).mp ⟨p, h⟩
  rw [plan_eq_of_loads d web hloads, loadedNames_eq hnames hloads] at h
  exact (Except.ok.inj h).symm

end Registration

end RestDeployment
