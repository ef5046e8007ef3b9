import RestDeployment.Proofs.ClassTable.Subtypes

/-!
# The search for implementors

A table finds the implementors of an interface by two walks one after the other: over the
interfaces below it, and then from all classes that list one of them over their subclasses.  Here
is the search with the second walk inside the first (`Search.round`): the names that list an
interface are visited one after the other, and each is either an interface, which is put into the
queue if it is new, or a class, which is found along with its subclasses.

Circles do not keep either walk busy.  The search comes to rest after at most one round for each
class of the table and one for the interface that was asked for, with the names that the table
finds (`Search.rounds_start`), and these are the classes that implement the interface
(`finds_all_implementors`).

## Strategy

The interfaces in the queue are dealt with as by a walk over `subinterfaces` alone
(`Search.walk_round`), which comes to rest by `Walk.rounds_eq_reachFrom`.  On the way the classes
found are those that the interfaces found so far bring in, except that an interface in the queue
has not brought in its own yet (`Search.Balanced`); in the end the queue is empty.
-/

namespace RestDeployment.ClassTable

open NameSet (Walk)

variable {t : ClassTable} {names queue : List String} {n i : String}

/-- The classes that an interface brings in: those that list it, and their subclasses. -/
def BringsIn (t : ClassTable) (i n : String) : Prop :=
  ∃ d ∈ t.directImplementors i, n = d ∨ n ∈ t.subclassNames [d]

theorem mem_implementorNames_iff_bringsIn (h : t.Consistent) :
    n ∈ t.implementorNames i ↔ ∃ j ∈ t.interfaceFamily i, t.BringsIn j n := by
  have hsubclasses : ∀ names, n ∈ t.subclassNames names ↔
      ∃ d ∈ names, n ∈ t.subclassNames [d] := by
    intro names
    simp only [mem_subclassNames h.linked, List.mem_singleton, exists_eq_left]
  rw [implementorNames, NameSet.mem_union, NameSet.mem_ofList, hsubclasses]
  simp only [List.mem_flatMap, BringsIn]
  constructor
  · rintro (⟨j, hj, hdirect⟩ | ⟨d, ⟨j, hj, hdirect⟩, hbelow⟩)
    · exact ⟨j, hj, n, hdirect, .inl rfl⟩
    · exact ⟨j, hj, d, hdirect, .inr hbelow⟩
  · rintro ⟨j, hj, d, hdirect, rfl | hbelow⟩
    · exact .inl ⟨j, hj, hdirect⟩
    · exact .inr ⟨d, ⟨j, hj, hdirect⟩, hbelow⟩

/-- A search under way: the classes found so far, and the walk over the interfaces. -/
structure Search where
  found : NameSet
  walk : Walk

namespace Search

variable {s : Search}

/-- The search for the implementors of an interface, before its first round. -/
def start (i : String) : Search := ⟨∅, NameSet.ofList [i], [i]⟩

/-- Queues an interface if it is new, or finds a class along with its subclasses. -/
def visit (t : ClassTable) (s : Search) (n : String) : Search :=
  if t.isInterface n then { s with walk := s.walk.visit n }
  else { s with found := s.found.insert n ∪ t.subclassNames [n] }

/-- Takes the first interface off the queue and visits the names that list it. -/
def round (t : ClassTable) (s : Search) : Search :=
  match s.walk.queue with
  | [] => s
  | i :: queue =>
    (children t.implementors i).foldl (visit t) { s with walk := { s.walk with queue := queue } }

/-! ### The walk over the interfaces -/

theorem walk_foldl_visit (t : ClassTable) (s : Search) (names : List String) :
    (names.foldl (visit t) s).walk = (names.filter t.isInterface).foldl Walk.visit s.walk := by
  induction names generalizing s with
  | nil => rfl
  | cons n names ih =>
      rw [List.foldl_cons, ih, visit, List.filter_cons]
      split
      · rfl
      · rfl

/-- The search goes over the interfaces like a walk that does nothing else. -/
theorem walk_round (t : ClassTable) (s : Search) :
    (s.round t).walk = s.walk.round t.subinterfaces := by
  rw [round, Walk.round]
  cases s.walk.queue with
  | nil => rfl
  | cons i queue => exact walk_foldl_visit t _ _

theorem walk_rounds (t : ClassTable) (s : Search) (k : Nat) :
    ((round t)^[k] s).walk = (Walk.round t.subinterfaces)^[k] s.walk := by
  induction k generalizing s with
  | zero => rfl
  | succ k ih => rw [Function.iterate_succ_apply, Function.iterate_succ_apply, ih, walk_round]

/-- All interfaces below the one that was asked for are walked over, and then the queue is
empty. -/
theorem walk_rounds_start (h : t.Consistent) (i : String) :
    ((round t)^[t.size + 1] (start i)).walk.queue = [] ∧
      ∀ j, j ∈ ((round t)^[t.size + 1] (start i)).walk.found ↔ j ∈ t.interfaceFamily i := by
  have hpool : ∀ j, ∀ n ∈ t.subinterfaces j, n ∈ t.classes.keys := by
    intro j n hn
    exact h.interfaces.mem_keys (List.mem_filter.mp hn).1
  -- at first all that was found waits in the queue
  have hsettled : NameSet.Settled t.subinterfaces t.classes.keys (NameSet.ofList [i]) [i] := by
    intro a ha
    exact .inl (NameSet.mem_ofList.mp ha)
  have hrounds : (Walk.round t.subinterfaces)^[t.size + 1] (start i).walk =
      ⟨NameSet.reachFrom t.subinterfaces t.classes.keys (NameSet.ofList [i]) [i], []⟩ :=
    Walk.rounds_eq_reachFrom hpool hsettled
      (Nat.add_le_add_right (size_sdiff_keys_le t _) 1)
  rw [walk_rounds, hrounds]
  refine ⟨rfl, fun j => ?_⟩
  rw [NameSet.mem_reachFrom hsettled, interfaceFamily, List.mem_cons, NameSet.mem_toList,
    NameSet.mem_reach, NameSet.mem_ofList, List.mem_singleton]

/-! ### The classes on the way -/

theorem mem_found_visit :
    n ∈ (s.visit t i).found ↔
      n ∈ s.found ∨ t.isInterface i = false ∧ (n = i ∨ n ∈ t.subclassNames [i]) := by
  rw [visit]
  split
  · next hinterface => simp [hinterface]
  · next hclass =>
      rw [NameSet.mem_union, NameSet.mem_insert, or_comm (a := n = i), or_assoc,
        and_iff_right (Bool.not_eq_true _ ▸ hclass)]

theorem mem_found_foldl_visit :
    n ∈ (names.foldl (visit t) s).found ↔ n ∈ s.found ∨ ∃ d ∈ names, t.isInterface d = false ∧
      (n = d ∨ n ∈ t.subclassNames [d]) := by
  induction names generalizing s with
  | nil => simp
  | cons d names ih =>
      rw [List.foldl_cons, ih, mem_found_visit, or_assoc]
      simp only [List.mem_cons, exists_eq_or_imp]

/-- In a round an interface brings in its classes. -/
theorem mem_found_round (hqueue : s.walk.queue = i :: queue) :
    n ∈ (s.round t).found ↔ n ∈ s.found ∨ t.BringsIn i n := by
  rw [round, hqueue]
  simp only [mem_found_foldl_visit, BringsIn, directImplementors, List.mem_filter,
    Bool.not_eq_true', and_assoc]

/-- What was found was brought in by the interfaces found so far, and what is missing of that
will be brought in by those in the queue. -/
structure Balanced (t : ClassTable) (s : Search) : Prop where
  queued : ∀ j ∈ s.walk.queue, j ∈ s.walk.found
  sound : ∀ n ∈ s.found, ∃ j ∈ s.walk.found, t.BringsIn j n
  complete : ∀ j ∈ s.walk.found, j ∈ s.walk.queue ∨ ∀ n, t.BringsIn j n → n ∈ s.found

theorem balanced_start (t : ClassTable) (i : String) : Balanced t (start i) where
  queued _ hj := NameSet.mem_ofList.mpr hj
  sound _ hn := absurd hn NameSet.not_mem_empty
  complete _ hj := .inl (NameSet.mem_ofList.mp hj)

theorem Balanced.round (h : Balanced t s) : Balanced t (s.round t) := by
  cases hqueue : s.walk.queue with
  | nil =>
      have hrest : s.round t = s := by rw [Search.round, hqueue]
      rwa [hrest]
  | cons i queue =>
      have hi : i ∈ s.walk.found := h.queued i (hqueue ▸ List.mem_cons_self)
      have hfound : ∀ j, j ∈ (s.round t).walk.found ↔
          j ∈ s.walk.found ∨ j ∈ t.subinterfaces i := fun j => by
        rw [walk_round, Walk.mem_found_round hqueue]
      have hwaits : ∀ j, j ∈ (s.round t).walk.queue ↔
          j ∈ queue ∨ j ∈ t.subinterfaces i ∧ j ∉ s.walk.found := fun j => by
        rw [walk_round, Walk.mem_queue_round hqueue]
      constructor
      case queued =>
        intro j hj
        rcases (hwaits j).mp hj with hold | ⟨hnew, -⟩
        · exact (hfound j).mpr (.inl (h.queued j (hqueue ▸ List.mem_cons_of_mem _ hold)))
        · exact (hfound j).mpr (.inr hnew)
      case sound =>
        intro n hn
        rcases (mem_found_round hqueue).mp hn with hold | hbrought
        · obtain ⟨j, hj, hbrings⟩ := h.sound n hold
          exact ⟨j, (hfound j).mpr (.inl hj), hbrings⟩
        · exact ⟨i, (hfound i).mpr (.inl hi), hbrought⟩
      case complete =>
        intro j hj
        by_cases hold : j ∈ s.walk.found
        · rcases h.complete j hold with hj' | hbrought
          · rw [hqueue] at hj'
            rcases List.mem_cons.mp hj' with rfl | hj'
            · -- this interface has just brought in its classes
              exact .inr fun n hn => (mem_found_round hqueue).mpr (.inr hn)
            · exact .inl ((hwaits j).mpr (.inl hj'))
          · exact .inr fun n hn => (mem_found_round hqueue).mpr (.inl (hbrought n hn))
        · have hnew := ((hfound j).mp hj).resolve_left hold
          exact .inl ((hwaits j).mpr (.inr ⟨hnew, hold⟩))

theorem Balanced.rounds (h : Balanced t s) (k : Nat) : Balanced t ((Search.round t)^[k] s) := by
  induction k generalizing s with
  | zero => exact h
  | succ k ih =>
      rw [Function.iterate_succ_apply]
      exact ih h.round

/-! ### The whole search -/

/-- A search comes to rest, and what it has found are the names that the table finds. -/
theorem rounds_start (h : t.Consistent) (i : String) :
    ((round t)^[t.size + 1] (start i)).walk.queue = [] ∧
      ((round t)^[t.size + 1] (start i)).found = t.implementorNames i := by
  obtain ⟨hrest, hfamily⟩ := walk_rounds_start h i
  have hbalanced := (balanced_start t i).rounds (t.size + 1)
  refine ⟨hrest, NameSet.ext fun n => ?_⟩
  rw [mem_implementorNames_iff_bringsIn h]
  constructor
  · intro hn
    obtain ⟨j, hj, hbrings⟩ := hbalanced.sound n hn
    exact ⟨j, (hfamily j).mp hj, hbrings⟩
  · rintro ⟨j, hj, hbrings⟩
    rcases hbalanced.complete j ((hfamily j).mpr hj) with hwaits | hbrought
    · rw [hrest] at hwaits
      cases hwaits
    · exact hbrought n hbrings

end Search

/-- **A table finds all implementors and nothing else.**  They are listed by name, each once: the
classes of the list that are, or extend over a chain of superclasses, a class that lists an
interface from which a chain of interfaces, each listing the next, leads to the one that was asked
for.  The search ends although it follows every link, and so does the walk from each class that it
finds to the subclasses. -/
theorem finds_all_implementors (classes : List ClassEntry) (i : String) :
    (((ofList classes).implementorsOf i).map (·.name)).Pairwise (· < ·) ∧
      (∀ c, c ∈ (ofList classes).implementorsOf i ↔
        LastOfName classes c ∧ (ofList classes).Implements c.name i) ∧
      (((Search.round (ofList classes))^[(ofList classes).size + 1] (.start i)).walk.queue = [] ∧
        ((Search.round (ofList classes))^[(ofList classes).size + 1] (.start i)).found =
          (ofList classes).implementorNames i) ∧
      ∀ d, (Walk.round (children (ofList classes).subclasses))^[(ofList classes).size + 1]
          ⟨∅, [d]⟩ = ⟨(ofList classes).subclassNames [d], []⟩ := by
  have hconsistent := consistent_ofList classes
  refine ⟨increasing_entriesOf hconsistent.keyed _, ?_, Search.rounds_start hconsistent i,
    rounds_subclasses hconsistent⟩
  intro c
  rw [mem_implementorsOf_iff hconsistent, class?_ofList_iff, and_iff_right rfl]

end RestDeployment.ClassTable
