import RestDeployment.Proofs.ClassTable

/-!
# The links of a table

A table keeps links downwards in two tables, one for superclasses and one for interfaces.  Both
change in the same way when an entry comes in: the links of the former entry of its name are
taken back and those of the new one are added (`relink`).  So both say what the entries of the
table name above them and nothing else, also after entries were replaced (`Represents`,
`consistent_ofList`).
-/

namespace RestDeployment.ClassTable

variable {t : ClassTable} {links : NameMap (List String)} {above : ClassEntry → List String}
  {parents : List String} {c : ClassEntry} {n p child parent : String}

/-! ### Single links -/

theorem children_insert (names : List String) :
    children (links.insert parent names) p = if p = parent then names else children links p := by
  rw [children, NameMap.get?_insert]
  split <;> rfl

theorem mem_children_link :
    n ∈ children (link child links parent) p ↔
      n ∈ children links p ∨ n = child ∧ p = parent := by
  rw [link, children_insert]
  by_cases hp : p = parent
  · simp [hp]
  · simp [hp]

theorem mem_children_unlink :
    n ∈ children (unlink child links parent) p ↔
      n ∈ children links p ∧ ¬ (n = child ∧ p = parent) := by
  rw [unlink, children_insert]
  by_cases hp : p = parent
  · simp [hp]
  · simp [hp]

/-! ### All links of an entry -/

theorem mem_children_foldl_link :
    n ∈ children (parents.foldl (link child) links) p ↔
      n ∈ children links p ∨ n = child ∧ p ∈ parents := by
  induction parents generalizing links with
  | nil => simp
  | cons parent parents ih =>
      rw [List.foldl_cons, ih, mem_children_link, List.mem_cons, or_assoc, and_or_left]

theorem mem_children_foldl_unlink :
    n ∈ children (parents.foldl (unlink child) links) p ↔
      n ∈ children links p ∧ ¬ (n = child ∧ p ∈ parents) := by
  induction parents generalizing links with
  | nil => simp
  | cons parent parents ih =>
      rw [List.foldl_cons, ih, mem_children_unlink, List.mem_cons, and_assoc, and_or_left, not_or]

/-- The links after an entry came in over a former one, if there was one. -/
def relink (above : ClassEntry → List String) (former : Option ClassEntry) (c : ClassEntry)
    (links : NameMap (List String)) : NameMap (List String) :=
  (above c).foldl (link c.name)
    (former.elim links fun f => (above f).foldl (unlink f.name) links)

/-- The superclass of an entry, if it names one. -/
def superNames (c : ClassEntry) : List String := c.superName.toList

theorem subclasses_insert (t : ClassTable) (c : ClassEntry) :
    (t.insert c).subclasses = relink superNames (t.class? c.name) c t.subclasses := by
  rw [insert, class?]
  cases t.classes.get? c.name <;> rfl

theorem implementors_insert (t : ClassTable) (c : ClassEntry) :
    (t.insert c).implementors = relink (·.interfaces) (t.class? c.name) c t.implementors := by
  rw [insert, class?]
  cases t.classes.get? c.name <;> rfl

/-! ### What links say -/

/-- Links lead down to a name exactly from what its entry names above it. -/
def Represents (t : ClassTable) (links : NameMap (List String))
    (above : ClassEntry → List String) : Prop :=
  ∀ n p, n ∈ children links p ↔ ∃ c, t.class? n = some c ∧ p ∈ above c

/-- An entry that comes in takes the place of its former one among the links as well. -/
theorem Represents.insert (h : t.Represents links above) (hkeyed : t.Keyed) (c : ClassEntry) :
    (t.insert c).Represents (relink above (t.class? c.name) c links) above := by
  intro n p
  rw [relink, mem_children_foldl_link, class?_insert]
  by_cases hn : n = c.name
  · -- nothing is left of what the former entry named
    have hcleared : n ∉ children
        ((t.class? c.name).elim links fun f => (above f).foldl (unlink f.name) links) p := by
      rw [hn]
      cases hformer : t.class? c.name with
      | none =>
          rw [Option.elim_none, h]
          rintro ⟨c', hc', -⟩
          rw [hformer] at hc'
          cases hc'
      | some former =>
          rw [Option.elim_some, mem_children_foldl_unlink, h, hkeyed _ _ hformer]
          rintro ⟨⟨c', hc', hp⟩, hnot⟩
          rw [hformer, Option.some.injEq] at hc'
          exact hnot ⟨rfl, hc' ▸ hp⟩
    simp [hn ▸ hcleared, hn]
  · have hkept : n ∈ children
        ((t.class? c.name).elim links fun f => (above f).foldl (unlink f.name) links) p ↔
          n ∈ children links p := by
      cases hformer : t.class? c.name with
      | none => rfl
      | some former =>
          rw [Option.elim_some, mem_children_foldl_unlink, hkeyed _ _ hformer]
          exact and_iff_left fun heq => hn heq.1
    rw [hkept, h]
    simp [hn]

/-- Every class is entered under its own name, and the links say what the entries name. -/
structure Consistent (t : ClassTable) : Prop where
  keyed : t.Keyed
  superclasses : t.Represents t.subclasses superNames
  interfaces : t.Represents t.implementors (·.interfaces)

theorem Consistent.insert (h : t.Consistent) (c : ClassEntry) : (t.insert c).Consistent where
  keyed := h.keyed.insert c
  superclasses := by
    rw [subclasses_insert]
    exact h.superclasses.insert h.keyed c
  interfaces := by
    rw [implementors_insert]
    exact h.interfaces.insert h.keyed c

theorem consistent_empty : ({} : ClassTable).Consistent := by
  have hnone : ∀ (above : ClassEntry → List String) n p,
      n ∈ children ∅ p ↔ ∃ c, ({} : ClassTable).class? n = some c ∧ p ∈ above c := by
    intro above n p
    refine iff_of_false List.not_mem_nil ?_
    rintro ⟨c, hc, -⟩
    cases hc
  exact ⟨keyed_ofList [], hnone _, hnone _⟩

/-- **The links of a table say what its entries name**, however it was put together. -/
theorem consistent_ofList (classes : List ClassEntry) : (ofList classes).Consistent := by
  refine List.foldlRecOn (motive := Consistent) classes ClassTable.insert consistent_empty ?_
  intro t ht c _
  exact ht.insert c

end RestDeployment.ClassTable
