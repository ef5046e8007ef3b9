import Mathlib.Logic.Relation
import RestDeployment.Hierarchy

/-!
# Superclasses over several indexes, without the walk

`descends_eq_true_iff` says what the walk up a hierarchy decides: whether superclasses lead from
a loaded class to the ancestor, in any number of steps.  The class may bring an entry of its own,
which goes before what the indexes know under its name (`withHandle`).

A class has at most one superclass, so a walk that comes back to a name it has passed goes in
a circle and has seen all names there are (`Passed`).  If the ancestor is not among them, the
walk may stop.
-/

namespace RestDeployment.Hierarchy

variable {h h' : Hierarchy} {ancestor n p : String} {seen : NameSet} {c : ClassEntry}

/-- The entry of a name names a superclass. -/
def Extends (h : Hierarchy) (n p : String) : Prop :=
  ∃ c, h.class? n = some c ∧ c.superName = some p

/-- Superclasses lead upwards from a name to an ancestor, in any number of steps. -/
abbrev Reaches (h : Hierarchy) : String → String → Prop := Relation.ReflTransGen h.Extends

theorem extends_iff (hclass : h.class? n = some c) : h.Extends n p ↔ c.superName = some p := by
  simp [Extends, hclass]

theorem eq_of_reaches_of_class?_eq_none (hnone : h.class? n = none) (hreach : h.Reaches n p) :
    n = p := by
  rcases hreach.cases_head with heq | ⟨q, ⟨c, hc, -⟩, -⟩
  · exact heq
  · rw [hnone] at hc
    cases hc

/-- A class reaches other classes through its superclass. -/
theorem reaches_iff_of_class? (hclass : h.class? n = some c) (hne : n ≠ ancestor) :
    h.Reaches n ancestor ↔ ∃ p, c.superName = some p ∧ h.Reaches p ancestor := by
  constructor
  · intro hreach
    rcases hreach.cases_head with heq | ⟨p, hstep, hreach⟩
    · exact absurd heq hne
    · exact ⟨p, (extends_iff hclass).mp hstep, hreach⟩
  · rintro ⟨p, hp, hreach⟩
    exact .head ((extends_iff hclass).mpr hp) hreach

/-! ### The walk -/

/-- A walk has passed some names without meeting the ancestor: their superclasses have been
passed too, except for that of the class at which the walk has arrived. -/
structure Passed (h : Hierarchy) (ancestor : String) (seen : NameSet) (c : ClassEntry) : Prop where
  not_met : ancestor ∉ seen
  closed : ∀ n ∈ seen, ∀ p, h.Extends n p → p ∈ seen ∨ c.superName = some p

theorem passed_first (hclass : h.class? n = some c) (hne : n ≠ ancestor) :
    h.Passed ancestor (NameSet.ofList [n]) c where
  not_met := by
    rw [NameSet.mem_ofList, List.mem_singleton]
    exact hne.symm
  closed := by
    intro k hk p hstep
    rw [NameSet.mem_ofList, List.mem_singleton] at hk
    rw [hk] at hstep
    exact .inr ((extends_iff hclass).mp hstep)

theorem Passed.step {next : ClassEntry} (hpassed : h.Passed ancestor seen c)
    (hsuper : c.superName = some n) (hne : n ≠ ancestor) (hclass : h.class? n = some next) :
    h.Passed ancestor (seen ∪ NameSet.ofList [n]) next where
  not_met := by
    rw [NameSet.mem_union, not_or]
    exact ⟨hpassed.not_met, (passed_first hclass hne).not_met⟩
  closed := by
    intro k hk p hstep
    rw [NameSet.mem_union]
    rcases NameSet.mem_union.mp hk with hseen | hlast
    · refine .inl ?_
      rcases hpassed.closed k hseen p hstep with hp | hp
      · exact .inl hp
      · rw [hsuper, Option.some.injEq] at hp
        exact .inr (NameSet.mem_ofList.mpr (List.mem_singleton.mpr hp.symm))
    · -- the last name is that of the class at which the walk arrives
      exact ((passed_first hclass hne).closed k hlast p hstep).imp_left .inr

/-- A walk that comes back to a name goes in a circle. -/
theorem Passed.mem_of_reaches (hpassed : h.Passed ancestor seen c) (hsuper : c.superName = some n)
    (hn : n ∈ seen) (hreach : h.Reaches n p) : p ∈ seen := by
  induction hreach with
  | refl => exact hn
  | tail _ hstep ih =>
      rcases hpassed.closed _ ih _ hstep with hp | hp
      · exact hp
      · rw [hsuper, Option.some.injEq] at hp
        rwa [← hp]

/-- What a walk decides, also one that takes names it has passed for other entries than `h'` has:
it does not come back to them. -/
theorem climbs_iff (hpassed : h'.Passed ancestor seen c)
    (hsame : ∀ n, n ∉ seen → h.class? n = h'.class? n) :
    h.climbs ancestor seen c = true ↔ ∃ p, c.superName = some p ∧ h'.Reaches p ancestor := by
  fun_induction climbs h ancestor seen c with
  | case1 seen c hsuper => simp [hsuper]
  | case2 seen c hsuper => exact iff_of_true rfl ⟨ancestor, hsuper, .refl⟩
  | case3 seen c p hsuper hne hseen =>
      simp only [hsuper, Option.some.injEq, exists_eq_left']
      refine iff_of_false Bool.false_ne_true fun hreach => ?_
      exact hpassed.not_met (hpassed.mem_of_reaches hsuper hseen hreach)
  | case4 seen c p hsuper hne hseen hclass =>
      simp only [hsuper, Option.some.injEq, exists_eq_left']
      rw [hsame p hseen] at hclass
      refine iff_of_false Bool.false_ne_true fun hreach => ?_
      exact hne (eq_of_reaches_of_class?_eq_none hclass hreach)
  | case5 seen c p hsuper hne hseen next hclass ih =>
      simp only [hsuper, Option.some.injEq, exists_eq_left']
      rw [hsame p hseen] at hclass
      have hrest : ∀ n, n ∉ seen ∪ NameSet.ofList [p] → h.class? n = h'.class? n := fun n hn =>
        hsame n fun hmem => hn (NameSet.mem_union.mpr (.inl hmem))
      rw [ih (hpassed.step hsuper hne hclass) hrest, reaches_iff_of_class? hclass hne]

/-! ### Loaded classes -/

/-- The hierarchy in which the entry that comes with a loaded class, if there is one, goes before
what the indexes know under its name. -/
def withHandle (h : Hierarchy) (handle : ClassHandle) : Hierarchy where
  indexes := match handle.entry with
    | none => h.indexes
    | some c =>
      { classes := (∅ : NameMap ClassEntry).insert handle.name c
        annotated := fun _ => []
        subtypes := fun _ => []
        implementors := fun _ => [] } :: h.indexes

theorem class?_withHandle (h : Hierarchy) (handle : ClassHandle) (n : String) :
    (h.withHandle handle).class? n =
      if n = handle.name then handle.entry.or (h.class? n) else h.class? n := by
  cases hentry : handle.entry with
  | none => simp [withHandle, class?, hentry]
  | some c =>
      by_cases hn : n = handle.name
      · simp [withHandle, class?, hentry, hn]
      · simp [withHandle, class?, hentry, hn]

/-- **What a walk from a loaded class decides**: whether superclasses lead from it to an ancestor,
where its own entry counts first. -/
theorem descends_eq_true_iff {handle : ClassHandle} :
    h.descends handle ancestor = true ↔
      (h.withHandle handle).Reaches handle.name ancestor := by
  have hown : (h.withHandle handle).class? handle.name =
      handle.entry.or (h.class? handle.name) := by rw [class?_withHandle, if_pos rfl]
  rw [descends]
  by_cases hn : handle.name = ancestor
  · rw [if_pos hn, hn]
    exact iff_of_true rfl .refl
  · rw [if_neg hn]
    cases hclass : handle.entry.or (h.class? handle.name) with
    | none =>
        refine iff_of_false Bool.false_ne_true fun hreach => ?_
        exact hn (eq_of_reaches_of_class?_eq_none (hown.trans hclass) hreach)
    | some c =>
        refine (climbs_iff (passed_first (hown.trans hclass) hn) fun n hne => ?_).trans
          (reaches_iff_of_class? (hown.trans hclass) hn).symm
        have hother : n ≠ handle.name := by simpa using hne
        rw [class?_withHandle, if_neg hother]

/-- **What a walk from a name decides**: a class descends from an ancestor if superclasses lead
from it to the ancestor. -/
theorem descends_iff : h.descends ⟨n, none⟩ ancestor = true ↔ h.Reaches n ancestor :=
  descends_eq_true_iff

/-! ### Indexes in another order -/

/-- No two of the indexes name different superclasses for a class. -/
def SuperclassesAgree (indexes : List ClassIndex) (n : String) : Prop :=
  ∀ i ∈ indexes, ∀ i' ∈ indexes, ∀ c c', i.classes.get? n = some c → i'.classes.get? n = some c' →
    c.superName = c'.superName

variable {own : ClassIndex} {indexes indexes' : List ClassIndex}

/-- Where indexes agree, any of them may be asked for the superclass of a class. -/
theorem extends_iff_of_agree (hagree : SuperclassesAgree indexes n) :
    Extends ⟨indexes⟩ n p ↔
      ∃ i ∈ indexes, ∃ c, i.classes.get? n = some c ∧ c.superName = some p := by
  constructor
  · rintro ⟨c, hclass, hsuper⟩
    obtain ⟨i, hi, hc⟩ := List.exists_of_findSome?_eq_some hclass
    exact ⟨i, hi, c, hc, hsuper⟩
  · rintro ⟨i, hi, c, hc, hsuper⟩
    cases hclass : class? ⟨indexes⟩ n with
    | none =>
        have hnone : i.classes.get? n = none := List.findSome?_eq_none_iff.mp hclass i hi
        rw [hnone] at hc
        cases hc
    | some c' =>
        obtain ⟨i', hi', hc'⟩ := List.exists_of_findSome?_eq_some hclass
        exact ⟨c', hclass, (hagree i' hi' i hi c' c hc' hc).trans hsuper⟩

/-- An index in front counts for the classes that it knows. -/
theorem extends_cons_iff :
    Extends ⟨own :: indexes⟩ n p ↔ (∃ c, own.classes.get? n = some c ∧ c.superName = some p) ∨
      own.classes.get? n = none ∧ Extends ⟨indexes⟩ n p := by
  simp only [Extends, class?, List.findSome?_cons]
  cases own.classes.get? n with
  | none => simp
  | some c => simp

/-- If indexes agree on all classes that the index in front does not know, their order does not
matter. -/
theorem descends_perm (hperm : indexes.Perm indexes')
    (hagree : ∀ n, own.classes.get? n = none → SuperclassesAgree indexes n) :
    descends ⟨own :: indexes⟩ ⟨n, none⟩ ancestor =
      descends ⟨own :: indexes'⟩ ⟨n, none⟩ ancestor := by
  have hextends : Extends ⟨own :: indexes⟩ = Extends ⟨own :: indexes'⟩ := by
    funext n p
    rw [extends_cons_iff, extends_cons_iff, eq_iff_iff]
    refine or_congr_right (and_congr_right fun hnone => ?_)
    have hagree' : SuperclassesAgree indexes' n := by
      intro i hi i' hi'
      exact hagree n hnone i (hperm.mem_iff.mpr hi) i' (hperm.mem_iff.mpr hi')
    rw [extends_iff_of_agree (hagree n hnone), extends_iff_of_agree hagree']
    exact exists_congr fun i => and_congr_left' hperm.mem_iff
  rw [Bool.eq_iff_iff, descends_iff, descends_iff, Reaches, hextends]

end RestDeployment.Hierarchy
