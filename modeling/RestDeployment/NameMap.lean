import RestDeployment.NameSet

/-!
# Maps from names

A table keyed by name is held as the list of its entries in strictly increasing
key order.  As for sets the form is canonical: two maps with the same look-ups
are equal (`NameMap.ext`), and listing a map lists it in key order.
-/

namespace RestDeployment

universe u v

/-- A finite map from names, held as its entries in strictly increasing key order. -/
structure NameMap (α : Type u) where
  entries : List (String × α)
  increasing : (entries.map Prod.fst).Pairwise (· < ·)
deriving DecidableEq

namespace NameMap

variable {α : Type u} {β : Type v}

/-! ### Increasing entry lists -/

/-- The value of the first entry with this key. -/
def find (k : String) : List (String × α) → Option α
  | [] => none
  | (k', a) :: l => if k = k' then some a else find k l

/-- Puts an entry at its place in an increasing list, over an entry of the same key. -/
def insertSorted (k : String) (a : α) : List (String × α) → List (String × α)
  | [] => [(k, a)]
  | (k', b) :: l =>
    if k < k' then (k, a) :: (k', b) :: l
    else if k = k' then (k, a) :: l
    else (k', b) :: insertSorted k a l

theorem map_fst_insertSorted (k : String) (a : α) (l : List (String × α)) :
    (insertSorted k a l).map Prod.fst = NameSet.insertSorted k (l.map Prod.fst) := by
  induction l with
  | nil => rfl
  | cons e l ih =>
    obtain ⟨k', b⟩ := e
    simp only [insertSorted, NameSet.insertSorted, List.map_cons]
    split
    · rfl
    · split
      · next h => simp [h]
      · simp [ih]

theorem find_eq_none_iff {k : String} {l : List (String × α)} :
    find k l = none ↔ k ∉ l.map Prod.fst := by
  induction l with
  | nil => simp [find]
  | cons e l ih =>
    obtain ⟨k', b⟩ := e
    by_cases h : k = k' <;> simp [find, h, ih]

theorem find_insertSorted {k x : String} {a : α} {l : List (String × α)}
    (h : (l.map Prod.fst).Pairwise (· < ·)) :
    find x (insertSorted k a l) = if x = k then some a else find x l := by
  induction l with
  | nil => simp [insertSorted, find]
  | cons e l ih =>
    obtain ⟨k', b⟩ := e
    rw [List.map_cons, List.pairwise_cons] at h
    have ih := ih h.2
    grind [insertSorted, find]

/-- An increasing entry list is determined by its look-ups. -/
theorem eq_of_find_eq {l₁ l₂ : List (String × α)} (h₁ : (l₁.map Prod.fst).Pairwise (· < ·))
    (h₂ : (l₂.map Prod.fst).Pairwise (· < ·)) (h : ∀ k, find k l₁ = find k l₂) : l₁ = l₂ := by
  have hkeys : l₁.map Prod.fst = l₂.map Prod.fst := by
    refine NameSet.eq_of_mem_iff h₁ h₂ fun k => ?_
    have h₁' := find_eq_none_iff (k := k) (l := l₁)
    have h₂' := find_eq_none_iff (k := k) (l := l₂)
    have := h k
    grind
  induction l₁ generalizing l₂ with
  | nil =>
    cases l₂ with
    | nil => rfl
    | cons e l₂ => simp at hkeys
  | cons e l₁ ih =>
    obtain ⟨k, a⟩ := e
    cases l₂ with
    | nil => simp at hkeys
    | cons e' l₂ =>
      obtain ⟨k', a'⟩ := e'
      simp only [List.map_cons, List.cons.injEq] at hkeys
      obtain ⟨rfl, hkeys⟩ := hkeys
      have hhead := h k
      simp only [find, if_true, Option.some.injEq] at hhead
      subst hhead
      rw [List.map_cons, List.pairwise_cons] at h₁ h₂
      rw [ih h₁.2 h₂.2 (fun x => ?_) hkeys]
      by_cases hx : x = k
      · subst hx
        have hnot : x ∉ l₁.map Prod.fst := fun hmem => String.lt_irrefl x (h₁.1 x hmem)
        rw [find_eq_none_iff.mpr hnot, find_eq_none_iff.mpr (hkeys ▸ hnot)]
      · have := h x
        simpa [find, hx] using this

/-! ### Maps -/

/-- The map without entries. -/
def empty : NameMap α := ⟨[], NameSet.pairwise_nil⟩

instance : EmptyCollection (NameMap α) := ⟨empty⟩
instance : Inhabited (NameMap α) := ⟨empty⟩

/-- The value stored under a key. -/
def get? (m : NameMap α) (k : String) : Option α := find k m.entries

/-- Whether a key has an entry. -/
def contains (m : NameMap α) (k : String) : Bool := (m.get? k).isSome

/-- The map with a value stored under a key, over any value stored there before. -/
def insert (m : NameMap α) (k : String) (a : α) : NameMap α :=
  ⟨insertSorted k a m.entries, by
    rw [map_fst_insertSorted]
    exact NameSet.pairwise_insertSorted m.increasing⟩

/-- The map of a list of entries; of two entries with one key the later counts. -/
def ofList (entries : List (String × α)) : NameMap α :=
  entries.foldl (fun m e => m.insert e.1 e.2) ∅

/-- The keys. -/
def keys (m : NameMap α) : NameSet := ⟨m.entries.map Prod.fst, m.increasing⟩

/-- The values, in key order. -/
def values (m : NameMap α) : List α := m.entries.map Prod.snd

/-- The number of entries. -/
def size (m : NameMap α) : Nat := m.entries.length

/-- Whether the map has no entry. -/
def isEmpty (m : NameMap α) : Bool := m.entries.isEmpty

theorem isEmpty_iff {m : NameMap α} : m.isEmpty = true ↔ m = ∅ := by
  obtain ⟨entries, hincreasing⟩ := m
  constructor
  · intro h
    obtain rfl : entries = [] := List.isEmpty_iff.mp h
    rfl
  · rintro ⟨⟩
    rfl

@[simp] theorem get?_empty (k : String) : (∅ : NameMap α).get? k = none := rfl

@[simp] theorem get?_insert (m : NameMap α) (k : String) (a : α) (x : String) :
    (m.insert k a).get? x = if x = k then some a else m.get? x :=
  find_insertSorted m.increasing

/-- Two maps with the same look-ups are equal. -/
theorem ext {m n : NameMap α} (h : ∀ k, m.get? k = n.get? k) : m = n := by
  cases m with
  | mk l₁ h₁ =>
    cases n with
    | mk l₂ h₂ =>
      congr
      exact eq_of_find_eq h₁ h₂ h

theorem mem_keys {m : NameMap α} {k : String} : k ∈ m.keys ↔ (m.get? k).isSome = true := by
  have := find_eq_none_iff (k := k) (l := m.entries)
  change k ∈ m.entries.map Prod.fst ↔ (find k m.entries).isSome = true
  cases hf : find k m.entries <;> simp_all

/-- A key has an entry exactly if it is among the keys. -/
theorem contains_iff {m : NameMap α} {k : String} : m.contains k = true ↔ k ∈ m.keys :=
  mem_keys.symm

/-- An entry is listed exactly if looking up its key gives its value. -/
theorem mem_entries {m : NameMap α} {k : String} {a : α} :
    (k, a) ∈ m.entries ↔ m.get? k = some a := by
  obtain ⟨l, h⟩ := m
  simp only [get?]
  induction l with
  | nil => simp [find]
  | cons e l ih =>
    obtain ⟨k', b⟩ := e
    rw [List.map_cons, List.pairwise_cons] at h
    have ih := ih h.2
    by_cases hk : k = k'
    · subst hk
      have hnot : (k, a) ∉ l := fun hmem =>
        String.lt_irrefl k (h.1 k (List.mem_map.mpr ⟨(k, a), hmem, rfl⟩))
      simp [find, hnot, eq_comm]
    · simp [find, hk, ih]

/-! ### Values that bear their keys -/

variable {m : NameMap α} {key : α → String}

/-- Values that bear their keys are listed in the order of these. -/
theorem map_key_values (h : ∀ k a, m.get? k = some a → key a = k) :
    m.values.map key = m.keys.toList := by
  rw [values, keys, List.map_map]
  refine List.map_congr_left fun e he => ?_
  exact h e.1 e.2 (mem_entries.mp he)

theorem mem_values (h : ∀ k a, m.get? k = some a → key a = k) {a : α} :
    a ∈ m.values ↔ m.get? (key a) = some a := by
  rw [values, List.mem_map]
  constructor
  · rintro ⟨⟨k, a⟩, hentry, rfl⟩
    have hget : m.get? k = some a := mem_entries.mp hentry
    rwa [h k a hget]
  · exact fun hget => ⟨(key a, a), mem_entries.mpr hget, rfl⟩

end NameMap

end RestDeployment
