import RestDeployment.Proofs.ClassTable.ListOrder
import RestDeployment.Proofs.NameSet.Rounds

/-!
# The subtypes in a table of a list

Asked for the subtypes of a name, a table lists in name order the classes from which a chain of
superclasses leads to that name, whatever circles the classes form and whether the name has an
entry or not (`finds_all_subtypes`).

A table searches along its links inside the pool of its own names.  As every link leads to a name
of the table (`Represents.mem_keys`), the pool takes nothing away: the walk that just follows
every link comes to rest after at most one round for each class and one for the name that was
asked for, with the same names (`rounds_subclasses`).
-/

namespace RestDeployment.ClassTable

open NameSet (Walk)

variable {t : ClassTable} {links : NameMap (List String)} {above : ClassEntry → List String}
  {n p : String}

/-! ### Answers in name order -/

/-- The entries of a set of names are listed in name order, each once. -/
theorem increasing_entriesOf (hkeyed : t.Keyed) (found : NameSet) :
    ((t.entriesOf found).map (·.name)).Pairwise (· < ·) := by
  rw [List.pairwise_map]
  apply found.increasing.filterMap
  intro k k' hlt c hc c' hc'
  -- an entry bears the name under which it was found
  rw [hkeyed k c hc, hkeyed k' c' hc']
  exact hlt

/-! ### The walk that follows every link -/

/-- Links lead to names of the table. -/
theorem Represents.mem_keys (h : t.Represents links above) (hn : n ∈ children links p) :
    n ∈ t.classes.keys := by
  obtain ⟨c, hc, -⟩ := (h n p).mp hn
  exact NameMap.mem_keys.mpr (Option.isSome_iff_exists.mpr ⟨c, hc⟩)

theorem size_sdiff_keys_le (t : ClassTable) (found : NameSet) :
    (t.classes.keys \ found).size ≤ t.size := by
  have hkeys : t.classes.keys.toList.length = t.size := List.length_map _
  rw [← hkeys]
  exact List.length_filter_le _ _

/-- The walk from a name along the links to subclasses comes to rest, with the names that are
searched for. -/
theorem rounds_subclasses (h : t.Consistent) (n : String) :
    (Walk.round (children t.subclasses))^[t.size + 1] ⟨∅, [n]⟩ = ⟨t.subclassNames [n], []⟩ := by
  apply Walk.rounds_eq_reachFrom
  · intro p child hchild
    exact h.superclasses.mem_keys hchild
  · exact NameSet.settled_empty _ _ _
  · exact Nat.add_le_add_right (size_sdiff_keys_le t ∅) 1

/-- **A table finds all subtypes and nothing else.**  They are listed by name, each once: the
classes of the list from which a chain of superclasses, one or more, leads to the name that was
asked for.  A class of this name itself is among them only where it is on a circle.  The walk
that finds them ends although it follows every link. -/
theorem finds_all_subtypes (classes : List ClassEntry) (n : String) :
    (((ofList classes).subtypes n).map (·.name)).Pairwise (· < ·) ∧
      (∀ c, c ∈ (ofList classes).subtypes n ↔
        LastOfName classes c ∧ (ofList classes).Inherits c.name n) ∧
      ((∃ c ∈ (ofList classes).subtypes n, c.name = n) ↔ (ofList classes).Inherits n n) ∧
      (Walk.round (children (ofList classes).subclasses))^[(ofList classes).size + 1] ⟨∅, [n]⟩ =
        ⟨(ofList classes).subclassNames [n], []⟩ := by
  have hconsistent := consistent_ofList classes
  have hsubtypes : ∀ c, c ∈ (ofList classes).subtypes n ↔
      LastOfName classes c ∧ (ofList classes).Inherits c.name n := by
    intro c
    rw [mem_subtypes_iff hconsistent.keyed hconsistent.linked, class?_ofList_iff,
      and_iff_right rfl]
  refine ⟨increasing_entriesOf hconsistent.keyed _, hsubtypes, ?_,
    rounds_subclasses hconsistent n⟩
  constructor
  · rintro ⟨c, hc, hname⟩
    exact hname ▸ ((hsubtypes c).mp hc).2
  · intro hcircle
    -- the chain starts with an entry of this name
    obtain ⟨p, ⟨c, hclass, -⟩, -⟩ := Relation.TransGen.head'_iff.mp hcircle
    obtain ⟨rfl, hlast⟩ := class?_ofList_iff.mp hclass
    exact ⟨c, (hsubtypes c).mpr ⟨hlast, hcircle⟩, rfl⟩

end RestDeployment.ClassTable
