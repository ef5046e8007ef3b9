import Mathlib.Logic.Relation
import RestDeployment.NameSet.Reach

/-!
# What a walk along links reaches

`mem_reach` describes a walk without its queue: it collects the names that links inside the
pool lead to from the start in one or more steps.

That nothing else is collected is kept by every step of the walk.  That nothing is missed
needs an invariant: of the names found so far, those whose links were not followed yet wait
in the queue (`Settled`).  When the queue is empty, what was found is closed under links.
-/

namespace RestDeployment.NameSet

variable {next : String → List String} {pool found : NameSet} {queue : List String}
  {a b n : String}

/-- A link inside the pool. -/
def Link (next : String → List String) (pool : NameSet) (a b : String) : Prop :=
  b ∈ next a ∧ b ∈ pool

/-- What one step of a walk adds. -/
theorem mem_fresh :
    b ∈ (ofList (next a)).filter (fun b => b ∈ pool ∧ b ∉ found) ↔
      Link next pool a b ∧ b ∉ found := by
  simp [Link, and_assoc]

/-! ### Nothing else is collected -/

theorem reachFrom_sound (h : n ∈ reachFrom next pool found queue) :
    n ∈ found ∨ ∃ a ∈ queue, Relation.TransGen (Link next pool) a n := by
  fun_induction reachFrom next pool found queue with
  | case1 found => exact .inl h
  | case2 found name queue fresh ih =>
      have hstep : ∀ b ∈ fresh, Link next pool name b := fun b hb => (mem_fresh.mp hb).1
      rcases ih h with hfound | ⟨a, ha, hreach⟩
      · rcases mem_union.mp hfound with hfound | hfresh
        · exact .inl hfound
        · exact .inr ⟨name, List.mem_cons_self, .single (hstep n hfresh)⟩
      · rcases List.mem_append.mp ha with hqueue | hfresh
        · exact .inr ⟨a, List.mem_cons_of_mem _ hqueue, hreach⟩
        · exact .inr ⟨name, List.mem_cons_self, .head (hstep a hfresh) hreach⟩

/-! ### Nothing is missed -/

theorem mem_reachFrom_of_mem (h : n ∈ found) : n ∈ reachFrom next pool found queue := by
  fun_induction reachFrom next pool found queue with
  | case1 found => exact h
  | case2 found name queue fresh ih => exact ih (mem_union.mpr (.inl h))

/-- Every name that was found waits in the queue or has had its links followed. -/
def Settled (next : String → List String) (pool found : NameSet) (queue : List String) : Prop :=
  ∀ a ∈ found, a ∈ queue ∨ ∀ b, Link next pool a b → b ∈ found

/-- A step follows the links of the first name in the queue and queues what is new. -/
theorem Settled.step {name : String} {found' : NameSet} {queue' : List String}
    (h : Settled next pool found (name :: queue))
    (hfound : ∀ b, b ∈ found' ↔ b ∈ found ∨ Link next pool name b)
    (hqueue : ∀ b, b ∈ queue' ↔ b ∈ queue ∨ Link next pool name b ∧ b ∉ found) :
    Settled next pool found' queue' := by
  intro a ha
  by_cases hold : a ∈ found
  · rcases h a hold with hwaits | hclosed
    · rcases List.mem_cons.mp hwaits with rfl | hwaits
      · -- the links of this name have just been followed
        exact .inr fun b hb => (hfound b).mpr (.inr hb)
      · exact .inl ((hqueue a).mpr (.inl hwaits))
    · exact .inr fun b hb => (hfound b).mpr (.inl (hclosed b hb))
  · have hlink := ((hfound a).mp ha).resolve_left hold
    exact .inl ((hqueue a).mpr (.inr ⟨hlink, hold⟩))

/-- The links of every name in the queue and of every name that is found are followed. -/
theorem reachFrom_closed (h : Settled next pool found queue)
    (ha : a ∈ queue ∨ a ∈ reachFrom next pool found queue) (hb : Link next pool a b) :
    b ∈ reachFrom next pool found queue := by
  fun_induction reachFrom next pool found queue with
  | case1 found =>
      have hfound : a ∈ found := ha.resolve_left List.not_mem_nil
      exact (h a hfound).resolve_left List.not_mem_nil b hb
  | case2 found name queue fresh ih =>
      have hsettled : Settled next pool (found ∪ fresh) (queue ++ fresh.toList) := by
        refine h.step (fun b => ?_) fun b => ?_
        · rw [mem_union, mem_fresh, or_and_left, and_iff_left (Decidable.em _)]
        · rw [List.mem_append, mem_toList, mem_fresh]
      rcases ha with ha | ha
      · rcases List.mem_cons.mp ha with rfl | ha
        · refine mem_reachFrom_of_mem (mem_union.mpr ?_)
          by_cases hfound : b ∈ found
          · exact .inl hfound
          · exact .inr (mem_fresh.mpr ⟨hb, hfound⟩)
        · exact ih hsettled (.inl (List.mem_append_left _ ha))
      · exact ih hsettled (.inr ha)

/-- From a state in which nothing was missed, a walk collects what was found already and what
links lead to from the queue. -/
theorem mem_reachFrom (h : Settled next pool found queue) :
    n ∈ reachFrom next pool found queue ↔
      n ∈ found ∨ ∃ a ∈ queue, Relation.TransGen (Link next pool) a n := by
  constructor
  · exact reachFrom_sound
  · rintro (hfound | ⟨a, ha, hreach⟩)
    · exact mem_reachFrom_of_mem hfound
    · induction hreach with
      | single hb => exact reachFrom_closed h (.inl ha) hb
      | tail _ hb ih => exact reachFrom_closed h (.inr ih) hb

theorem settled_empty (next : String → List String) (pool : NameSet) (queue : List String) :
    Settled next pool ∅ queue := fun _ ha => absurd ha not_mem_empty

/-- **A walk reaches what links lead to from its start**, in one or more steps. -/
theorem mem_reach :
    n ∈ reach next pool queue ↔ ∃ a ∈ queue, Relation.TransGen (Link next pool) a n := by
  rw [reach, mem_reachFrom (settled_empty next pool queue), or_iff_right not_mem_empty]

end RestDeployment.NameSet
