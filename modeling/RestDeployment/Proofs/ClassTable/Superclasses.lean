import RestDeployment.Proofs.ClassTable.Links
import RestDeployment.Proofs.NameSet.Reach

/-!
# Superclasses in a table

A table answers questions about subclasses from its links downwards, which it keeps up to
date as entries come in.  They always say what the entries say (`linked_ofList`): a class is
linked below the superclass that its entry names, and below nothing else, also after its
entry was replaced.  So the subclasses that a table finds are the classes from which its
entries lead upwards to the class that was asked for (`mem_subtypes_iff`).
-/

namespace RestDeployment.ClassTable

variable {t : ClassTable} {c : ClassEntry} {names : List String} {n p ancestor : String}

/-- The entry of a name names a superclass. -/
def Extends (t : ClassTable) (n p : String) : Prop :=
  ∃ c, t.class? n = some c ∧ c.superName = some p

/-- The links downwards are those that the entries name. -/
def Linked (t : ClassTable) : Prop := ∀ n p, n ∈ children t.subclasses p ↔ t.Extends n p

theorem Consistent.linked (h : t.Consistent) : t.Linked := by
  intro n p
  rw [h.superclasses n p]
  simp only [superNames, Option.mem_toList, Extends]

theorem linked_ofList (classes : List ClassEntry) : (ofList classes).Linked :=
  (consistent_ofList classes).linked

/-! ### Chains of superclasses -/

/-- Entries lead upwards from a name to an ancestor, in one or more steps. -/
abbrev Inherits (t : ClassTable) : String → String → Prop := Relation.TransGen t.Extends

theorem mem_subclassNames (h : t.Linked) :
    n ∈ t.subclassNames names ↔ ∃ p ∈ names, t.Inherits n p := by
  have hlink : NameSet.Link (children t.subclasses) t.classes.keys =
      Function.swap t.Extends := by
    funext parent child
    refine propext ⟨fun hchild => (h child parent).mp hchild.1, fun hchild => ?_⟩
    obtain ⟨c, hc, -⟩ := id hchild
    refine ⟨(h child parent).mpr hchild, NameMap.mem_keys.mpr ?_⟩
    exact Option.isSome_iff_exists.mpr ⟨c, hc⟩
  rw [subclassNames, NameSet.mem_reach, hlink]
  simp only [Relation.transGen_swap]

/-- The entries of names are those entries of the table that bear them. -/
theorem mem_entriesOf (hkeyed : t.Keyed) {found : NameSet} :
    c ∈ t.entriesOf found ↔ t.class? c.name = some c ∧ c.name ∈ found := by
  constructor
  · intro hc
    obtain ⟨key, hkey, hget⟩ := List.mem_filterMap.mp hc
    obtain rfl : c.name = key := hkeyed key c hget
    exact ⟨hget, hkey⟩
  · rintro ⟨hclass, hname⟩
    exact List.mem_filterMap.mpr ⟨c.name, hname, hclass⟩

/-- **The subclasses that a table finds** are the classes from which its entries lead upwards
to the class that was asked for. -/
theorem mem_subtypes_iff (hkeyed : t.Keyed) (h : t.Linked) :
    c ∈ t.subtypes ancestor ↔ t.class? c.name = some c ∧ t.Inherits c.name ancestor := by
  rw [subtypes, mem_entriesOf hkeyed, mem_subclassNames h]
  simp only [List.mem_singleton, exists_eq_left]

end RestDeployment.ClassTable
