import Mathlib.Logic.Function.Iterate
import RestDeployment.ClassTable
import RestDeployment.Config
import RestDeployment.Proofs.Hierarchy
import RestDeployment.Proofs.NameSet.Rounds

/-!
# The climb to an ancestor, step by step

`Hierarchy.descends` climbs from class to superclass until it knows the answer.  Here is the climb
as a sequence of steps, each of which looks up one class (`Climb.step`), and what it decides: the
ancestor is found exactly if superclasses lead to it, where of several indexes that know a class
the first one counts (`LeadsUp`).

## Strategy

* **It ends.**  A step that gives no answer yet passes a name that was not passed before and that
  some index knows, so one name less is left to be passed (`Climb.potential_step`).  After as many
  steps as there are names in the indexes the answer is there, whatever circles the classes form.
* **It misses nothing.**  No step changes the answer that the climb comes to
  (`Climb.answer_step`), and `descends_eq_true_iff` says which one that is.
-/

namespace RestDeployment.Hierarchy

variable {h : Hierarchy} {ancestor : String} {handle : ClassHandle}

/-! ### What a step reads -/

/-- The first index that knows a class names this superclass for it. -/
def LeadsUp (h : Hierarchy) (n p : String) : Prop :=
  ∃ before index after c, h.indexes = before ++ index :: after ∧
    (∀ i ∈ before, i.classes.get? n = none) ∧ index.classes.get? n = some c ∧
      c.superName = some p

theorem extends_eq_leadsUp (h : Hierarchy) : h.Extends = h.LeadsUp := by
  funext n p
  simp only [Extends, class?, List.findSome?_eq_some_iff, eq_iff_iff]
  constructor
  · rintro ⟨c, ⟨before, index, after, hsplit, hget, hbefore⟩, hsuper⟩
    exact ⟨before, index, after, c, hsplit, hbefore, hget, hsuper⟩
  · rintro ⟨before, index, after, c, hsplit, hbefore, hget, hsuper⟩
    exact ⟨c, ⟨before, index, after, hsplit, hget, hbefore⟩, hsuper⟩

/-! ### Loaded classes without an entry of their own -/

/-- A loaded class brings no entry, or no other than the indexes have for its name. -/
def Covers (h : Hierarchy) (handle : ClassHandle) : Prop :=
  handle.entry = none ∨ handle.entry = h.class? handle.name

theorem Covers.entry_or (hcovers : h.Covers handle) :
    handle.entry.or (h.class? handle.name) = h.class? handle.name := by
  rcases hcovers with hnone | hsame
  · rw [hnone, Option.none_or]
  · rw [hsame, Option.or_self]

/-- The entry that comes with such a class changes nothing. -/
theorem Covers.extends_withHandle (hcovers : h.Covers handle) :
    (h.withHandle handle).Extends = h.Extends := by
  have hclass : (h.withHandle handle).class? = h.class? := by
    funext n
    rw [class?_withHandle]
    split
    · next hn => rw [hn, hcovers.entry_or]
    · rfl
  funext n p
  rw [Extends, Extends, hclass]

/-! ### Steps -/

/-- A climb: under way, at a class and with the names passed so far, or settled. -/
inductive Climb where
  | arrived (seen : NameSet) (c : ClassEntry)
  | settled (found : Bool)

namespace Climb

variable {s : Climb} {k : ℕ}

/-- The climb from a loaded class, before its first step. -/
def start (h : Hierarchy) (handle : ClassHandle) (ancestor : String) : Climb :=
  if handle.name = ancestor then settled true
  else match handle.entry.or (h.class? handle.name) with
    | none => settled false
    | some c => arrived (NameSet.ofList [handle.name]) c

/-- Goes up to the superclass, unless that settles the answer. -/
def step (h : Hierarchy) (ancestor : String) : Climb → Climb
  | settled found => settled found
  | arrived seen c =>
    match c.superName with
    | none => settled false
    | some parent =>
      if parent = ancestor then settled true
      else if parent ∈ seen then settled false
      else match h.class? parent with
        | none => settled false
        | some next => arrived (seen ∪ NameSet.ofList [parent]) next

/-- The answer that a climb has come to or will come to. -/
def answer (h : Hierarchy) (ancestor : String) : Climb → Bool
  | settled found => found
  | arrived seen c => h.climbs ancestor seen c

/-- A bound for the steps that are left: one for each name that can still be passed, and the last
one. -/
def potential (h : Hierarchy) : Climb → ℕ
  | settled _ => 0
  | arrived seen _ => (h.names \ seen).size + 1

/-- What a step from a class does: it gives the answer, or it passes a name that some index knows
and that was not passed before. -/
theorem step_arrived (h : Hierarchy) (ancestor : String) (seen : NameSet) (c : ClassEntry) :
    (arrived seen c).step h ancestor = settled (h.climbs ancestor seen c) ∨
      ∃ parent next, h.class? parent = some next ∧ parent ∉ seen ∧
        (arrived seen c).step h ancestor = arrived (seen ∪ NameSet.ofList [parent]) next ∧
        h.climbs ancestor seen c = h.climbs ancestor (seen ∪ NameSet.ofList [parent]) next := by
  fun_cases climbs h ancestor seen c with
  | case1 hsuper => simp [step, hsuper]
  | case2 hsuper => simp [step, hsuper]
  | case3 parent hsuper hne hseen => simp [step, hsuper, hne, hseen]
  | case4 parent hsuper hne hseen hclass => simp [step, hsuper, hne, hseen, hclass]
  | case5 parent hsuper hne hseen next hclass =>
      refine .inr ⟨parent, next, hclass, hseen, ?_, rfl⟩
      simp only [step, hsuper, if_neg hne, if_neg hseen, hclass]

theorem answer_step (h : Hierarchy) (ancestor : String) (s : Climb) :
    (s.step h ancestor).answer h ancestor = s.answer h ancestor := by
  cases s with
  | settled found => rfl
  | arrived seen c =>
      rcases step_arrived h ancestor seen c with hsettled | ⟨parent, next, -, -, hnext, hsame⟩
      · rw [hsettled, answer, answer]
      · rw [hnext, answer, answer, hsame]

/-- Each step uses up a name, or it is the last one. -/
theorem potential_step (h : Hierarchy) (ancestor : String) (seen : NameSet) (c : ClassEntry) :
    ((arrived seen c).step h ancestor).potential h < (arrived seen c).potential h := by
  rcases step_arrived h ancestor seen c with hsettled | ⟨parent, next, hclass, hseen, hnext, -⟩
  · rw [hsettled]
    exact Nat.succ_pos _
  · have hless : (h.names \ (seen ∪ NameSet.ofList [parent])).size < (h.names \ seen).size :=
      NameSet.size_sdiff_union_lt (mem_names_of_class? hclass) hseen (by simp)
    rw [hnext]
    exact Nat.succ_lt_succ hless

/-- A climb is settled after that many steps, with the answer that it was to come to. -/
theorem iterate_step (hk : s.potential h ≤ k) :
    (step h ancestor)^[k] s = settled (s.answer h ancestor) := by
  induction k generalizing s with
  | zero =>
      cases s with
      | settled found => rfl
      | arrived seen c =>
          rw [potential] at hk
          omega
  | succ k ih =>
      have hnext : (s.step h ancestor).potential h ≤ k := by
        cases s with
        | settled found => exact Nat.zero_le _
        | arrived seen c =>
            have hless := potential_step h ancestor seen c
            omega
      rw [Function.iterate_succ_apply, ih hnext, answer_step]

theorem answer_start (h : Hierarchy) (handle : ClassHandle) (ancestor : String) :
    (start h handle ancestor).answer h ancestor = h.descends handle ancestor := by
  unfold start descends
  split
  · rfl
  · cases handle.entry.or (h.class? handle.name) with
    | none => rfl
    | some c => rfl

/-- The climb from a class of the indexes has passed one of their names already. -/
theorem potential_start (ancestor : String) (hcovers : h.Covers handle) :
    (start h handle ancestor).potential h ≤ h.names.size := by
  unfold start
  split
  · exact Nat.zero_le _
  · rw [hcovers.entry_or]
    cases hclass : h.class? handle.name with
    | none => exact Nat.zero_le _
    | some c =>
        calc (h.names \ NameSet.ofList [handle.name]).size + 1
            = (h.names \ ∅).size :=
              NameSet.size_sdiff_insert_add (mem_names_of_class? hclass) NameSet.not_mem_empty
          _ ≤ h.names.size := List.length_filter_le _ _

end Climb

/-! ### The whole climb -/

/-- **A climb finds the ancestors and nothing else.**  For a class of which nothing is known but
what the indexes say, it finds an ancestor exactly if superclasses lead to it, in any number of
steps, where of several indexes that know a class the first one counts.  It is settled after at
most one step for each name that some index knows. -/
theorem descends_iff_leadsUp (h : Hierarchy) (handle : ClassHandle) (ancestor : String)
    (hcovers : h.Covers handle) :
    (h.descends handle ancestor = true ↔
      Relation.ReflTransGen h.LeadsUp handle.name ancestor) ∧
      (Climb.step h ancestor)^[h.names.size] (.start h handle ancestor) =
        .settled (h.descends handle ancestor) := by
  constructor
  · rw [descends_eq_true_iff, Reaches, hcovers.extends_withHandle, extends_eq_leadsUp]
  · rw [Climb.iterate_step (Climb.potential_start ancestor hcovers), Climb.answer_start]

/-- An index of classes with these names and superclasses. -/
def indexOf (classes : List (String × Option String)) : ClassIndex :=
  (ClassTable.ofList (classes.map fun c => ⟨c.1, .ordinary, [], c.2, [], [], [], []⟩)).toIndex

/-- A unit with a shop, an order that is not what the library says it is, and two classes that
extend each other, and a library. -/
def shopHierarchy : Hierarchy where
  indexes :=
    [indexOf [("Shop", some "lib.Base"), ("Order", some "Ring"), ("Ring", some "Loop"),
        ("Loop", some "Ring")],
      indexOf [("lib.Base", some applicationClass), ("Order", some applicationClass)]]

/-- The shop extends the application class over the library.  The order does not, although the
library says so: its own entry goes before, and leads into a circle. -/
theorem descends_iff_leadsUp_shopHierarchy :
    (shopHierarchy.descends ⟨"Shop", shopHierarchy.class? "Shop"⟩ applicationClass = true ∧
      Relation.ReflTransGen shopHierarchy.LeadsUp "Shop" applicationClass) ∧
    (shopHierarchy.descends ⟨"Order", none⟩ applicationClass = false ∧
      ¬ Relation.ReflTransGen shopHierarchy.LeadsUp "Order" applicationClass) := by
  obtain ⟨hshop, hshopEnds⟩ := descends_iff_leadsUp shopHierarchy
    ⟨"Shop", shopHierarchy.class? "Shop"⟩ applicationClass (.inr rfl)
  obtain ⟨horder, horderEnds⟩ := descends_iff_leadsUp shopHierarchy ⟨"Order", none⟩
    applicationClass (.inl rfl)
  have hfound : shopHierarchy.descends ⟨"Shop", shopHierarchy.class? "Shop"⟩ applicationClass =
      true := by
    have hsteps : (Climb.step shopHierarchy applicationClass)^[shopHierarchy.names.size]
        (.start shopHierarchy ⟨"Shop", shopHierarchy.class? "Shop"⟩ applicationClass) =
          .settled true := rfl
    exact Climb.settled.inj (hshopEnds.symm.trans hsteps)
  have hnot : shopHierarchy.descends ⟨"Order", none⟩ applicationClass = false := by
    have hsteps : (Climb.step shopHierarchy applicationClass)^[shopHierarchy.names.size]
        (.start shopHierarchy ⟨"Order", none⟩ applicationClass) = .settled false := rfl
    exact Climb.settled.inj (horderEnds.symm.trans hsteps)
  refine ⟨⟨hfound, hshop.mp hfound⟩, hnot, fun hleads => ?_⟩
  rw [horder.mpr hleads] at hnot
  cases hnot

end RestDeployment.Hierarchy
