import Mathlib.Logic.Function.Iterate
import RestDeployment.Proofs.NameSet.Reach

/-!
# Walks that follow every link

`NameSet.reach` follows links inside a finite pool of names, and that is why it ends.  Here is the
walk without a pool, round by round: the first name is taken off the queue, and the names that its
links lead to are visited one after the other, each being put down and queued if it is new
(`Walk.round`).

Where all links lead to finitely many names this walk comes to rest as well, after so many rounds
as there are names to be found or waiting in the queue, and what it has found is what the walk in
the pool of these names finds (`rounds_eq_reachFrom`).

## Strategy

* **It comes to rest.**  A name is queued when it is put down, so of the names that are not found
  yet and those in the queue there is one less after each round (`potential_round`).
* **It finds the same.**  No round changes what there is to be found: the links of the first name
  either lead to a name that is put down and queued, or to one that was found before and has been
  dealt with or waits its turn (`reachFrom_round`).
-/

namespace RestDeployment.NameSet

/-- One name that is put down is one name less to be found. -/
theorem size_sdiff_insert_add {pool found : NameSet} {n : String} (hn : n ∈ pool)
    (hnew : n ∉ found) : (pool \ found.insert n).size + 1 = (pool \ found).size := by
  have hinsert : found.insert n = found ∪ ofList [n] := by
    refine ext fun b => ?_
    rw [mem_insert, mem_union, mem_ofList, List.mem_singleton, or_comm]
  have hsize : (pool \ (found ∪ ofList [n])).size + (ofList [n]).size = (pool \ found).size := by
    refine size_sdiff_union_add fun b hb => ?_
    rw [mem_ofList, List.mem_singleton] at hb
    exact hb ▸ ⟨hn, hnew⟩
  have hone : (ofList [n]).size = 1 := rfl
  rw [hinsert, ← hsize, hone]

/-- A walk under way: the names found so far, and those whose links are still to be followed. -/
structure Walk where
  found : NameSet
  queue : List String

namespace Walk

variable {next : String → List String} {pool : NameSet} {w : Walk} {names queue : List String}
  {a b n : String}

/-- Puts a name down and queues it, if it is new. -/
def visit (w : Walk) (n : String) : Walk :=
  if n ∈ w.found then w else { found := w.found.insert n, queue := w.queue ++ [n] }

/-- Takes the first name off the queue and visits the names that its links lead to. -/
def round (next : String → List String) (w : Walk) : Walk :=
  match w.queue with
  | [] => w
  | a :: queue => (next a).foldl visit { w with queue := queue }

/-! ### What a round finds and queues -/

theorem mem_found_visit : b ∈ (w.visit n).found ↔ b ∈ w.found ∨ b = n := by
  rw [visit]
  split
  · next hold => exact ⟨.inl, fun h => h.elim id fun heq => heq ▸ hold⟩
  · rw [mem_insert, or_comm]

theorem mem_queue_visit : b ∈ (w.visit n).queue ↔ b ∈ w.queue ∨ b = n ∧ b ∉ w.found := by
  rw [visit]
  split
  · next hold => exact ⟨.inl, fun h => h.elim id fun hnew => absurd (hnew.1 ▸ hold) hnew.2⟩
  · next hnew =>
      rw [List.mem_append, List.mem_singleton]
      exact or_congr_right ⟨fun heq => ⟨heq, heq ▸ hnew⟩, And.left⟩

theorem mem_found_foldl_visit : b ∈ (names.foldl visit w).found ↔ b ∈ w.found ∨ b ∈ names := by
  induction names generalizing w with
  | nil => simp
  | cons n names ih => rw [List.foldl_cons, ih, mem_found_visit, List.mem_cons, or_assoc]

theorem mem_queue_foldl_visit :
    b ∈ (names.foldl visit w).queue ↔ b ∈ w.queue ∨ b ∈ names ∧ b ∉ w.found := by
  induction names generalizing w with
  | nil => simp
  | cons n names ih =>
      rw [List.foldl_cons, ih, mem_queue_visit, mem_found_visit, List.mem_cons]
      by_cases hn : b = n
      · simp [hn]
      · simp [hn]

theorem round_of_queue_eq_nil (hqueue : w.queue = []) : w.round next = w := by
  rw [round, hqueue]

theorem round_of_queue_eq_cons (hqueue : w.queue = a :: queue) :
    w.round next = (next a).foldl visit { w with queue := queue } := by
  rw [round, hqueue]

theorem mem_found_round (hqueue : w.queue = a :: queue) :
    b ∈ (w.round next).found ↔ b ∈ w.found ∨ b ∈ next a := by
  rw [round_of_queue_eq_cons hqueue, mem_found_foldl_visit]

theorem mem_queue_round (hqueue : w.queue = a :: queue) :
    b ∈ (w.round next).queue ↔ b ∈ queue ∨ b ∈ next a ∧ b ∉ w.found := by
  rw [round_of_queue_eq_cons hqueue, mem_queue_foldl_visit]

/-! ### It comes to rest -/

/-- The number of names of the pool that are still to be found or waiting in the queue. -/
def potential (pool : NameSet) (w : Walk) : Nat := (pool \ w.found).size + w.queue.length

theorem potential_visit (hn : n ∈ pool) : (w.visit n).potential pool = w.potential pool := by
  rw [visit]
  split
  · rfl
  · next hnew =>
      -- what is found now waits in the queue
      calc (pool \ w.found.insert n).size + (w.queue ++ [n]).length
          = (pool \ w.found.insert n).size + 1 + w.queue.length := by
            rw [List.length_append, List.length_singleton]
            omega
        _ = w.potential pool := by rw [size_sdiff_insert_add hn hnew, potential]

theorem potential_foldl_visit (hpool : ∀ b ∈ names, b ∈ pool) :
    (names.foldl visit w).potential pool = w.potential pool := by
  induction names generalizing w with
  | nil => rfl
  | cons n names ih =>
      rw [List.forall_mem_cons] at hpool
      rw [List.foldl_cons, ih hpool.2, potential_visit hpool.1]

/-- Each round uses up one name. -/
theorem potential_round (hpool : ∀ b ∈ next a, b ∈ pool) (hqueue : w.queue = a :: queue) :
    (w.round next).potential pool + 1 = w.potential pool := by
  rw [round_of_queue_eq_cons hqueue, potential_foldl_visit hpool, potential, potential, hqueue,
    List.length_cons, Nat.add_assoc]

/-! ### It finds the same -/

theorem link_iff (hpool : ∀ b ∈ next a, b ∈ pool) : Link next pool a b ↔ b ∈ next a :=
  and_iff_left_of_imp (hpool b)

theorem settled_round (hpool : ∀ b ∈ next a, b ∈ pool) (hqueue : w.queue = a :: queue)
    (hsettled : Settled next pool w.found w.queue) :
    Settled next pool (w.round next).found (w.round next).queue := by
  rw [hqueue] at hsettled
  apply hsettled.step
  · intro b
    rw [mem_found_round hqueue, link_iff hpool]
  · intro b
    rw [mem_queue_round hqueue, link_iff hpool]

/-- What there is to be found behind a name that was found is found or waits to be found. -/
theorem reaches_of_mem_found (hsettled : Settled next pool w.found w.queue) (ha : a ∈ w.found)
    (hreach : Relation.ReflTransGen (Link next pool) a n) :
    n ∈ w.found ∨ ∃ b ∈ w.queue, Relation.TransGen (Link next pool) b n := by
  induction hreach using Relation.ReflTransGen.head_induction_on with
  | refl => exact .inl ha
  | head hlink hrest ih =>
      rcases hsettled _ ha with hwaits | hclosed
      · exact .inr ⟨_, hwaits, .head' hlink hrest⟩
      · exact ih (hclosed _ hlink)

/-- A round does not change what there is to be found. -/
theorem reachFrom_round (hpool : ∀ b ∈ next a, b ∈ pool) (hqueue : w.queue = a :: queue)
    (hsettled : Settled next pool w.found w.queue) :
    reachFrom next pool (w.round next).found (w.round next).queue =
      reachFrom next pool w.found w.queue := by
  have hsettled' := settled_round hpool hqueue hsettled
  refine ext fun n => ?_
  rw [mem_reachFrom hsettled, mem_reachFrom hsettled', hqueue]
  constructor
  · rintro (hfound | ⟨b, hb, hreach⟩)
    · rcases (mem_found_round hqueue).mp hfound with hold | hnew
      · exact .inl hold
      · exact .inr ⟨a, List.mem_cons_self, .single ((link_iff hpool).mpr hnew)⟩
    · rcases (mem_queue_round hqueue).mp hb with hwaits | ⟨hnew, -⟩
      · exact .inr ⟨b, List.mem_cons_of_mem _ hwaits, hreach⟩
      · exact .inr ⟨a, List.mem_cons_self, .head ((link_iff hpool).mpr hnew) hreach⟩
  · rintro (hfound | ⟨b, hb, hreach⟩)
    · exact .inl ((mem_found_round hqueue).mpr (.inl hfound))
    · rcases List.mem_cons.mp hb with rfl | hwaits
      · -- the way leads over a name that this round has found
        obtain ⟨c, hfirst, hrest⟩ := Relation.TransGen.head'_iff.mp hreach
        have hc : c ∈ (w.round next).found :=
          (mem_found_round hqueue).mpr (.inr ((link_iff hpool).mp hfirst))
        exact reaches_of_mem_found hsettled' hc hrest
      · exact .inr ⟨b, (mem_queue_round hqueue).mpr (.inl hwaits), hreach⟩

/-- **A walk that follows every link comes to rest**, if all links lead into the pool: after one
round for each name of the pool that is not found yet and one for each that waits in the queue,
and then it has found what the walk in the pool finds. -/
theorem rounds_eq_reachFrom (hpool : ∀ a, ∀ b ∈ next a, b ∈ pool)
    (hsettled : Settled next pool w.found w.queue) {k : Nat} (hk : w.potential pool ≤ k) :
    (round next)^[k] w = ⟨reachFrom next pool w.found w.queue, []⟩ := by
  induction k generalizing w with
  | zero =>
      have hqueue : w.queue = [] := by
        rw [potential] at hk
        exact List.eq_nil_of_length_eq_zero (by omega)
      rw [hqueue, reachFrom, Function.iterate_zero_apply, ← hqueue]
  | succ k ih =>
      cases hqueue : w.queue with
      | nil =>
          rw [Function.iterate_fixed (round_of_queue_eq_nil hqueue), reachFrom, ← hqueue]
      | cons a queue =>
          have hless := potential_round (hpool a) hqueue
          rw [Function.iterate_succ_apply, ih (settled_round (hpool a) hqueue hsettled) (by omega),
            reachFrom_round (hpool a) hqueue hsettled, hqueue]

end Walk

end RestDeployment.NameSet
