/-!
# Sets of names

Classes, annotations and build units are known by name, and most answers of the
library are sets of names.  A set is held as the strictly increasing list of its
members, in code point order.  That form is canonical: two sets with the same
members are equal (`NameSet.ext`), and listing a set lists it in order.
-/

namespace RestDeployment

/-- A finite set of names, held as the strictly increasing list of its members. -/
structure NameSet where
  toList : List String
  increasing : toList.Pairwise (· < ·)
deriving DecidableEq

namespace NameSet

/-! ### Increasing lists -/

/-- Puts a name at its place in an increasing list that may already hold it. -/
def insertSorted (a : String) : List String → List String
  | [] => [a]
  | b :: l => if a < b then a :: b :: l else if a = b then b :: l else b :: insertSorted a l

theorem mem_insertSorted {a x : String} {l : List String} :
    x ∈ insertSorted a l ↔ x = a ∨ x ∈ l := by
  induction l with
  | nil => simp [insertSorted]
  | cons b l ih => grind [insertSorted]

theorem pairwise_insertSorted {a : String} {l : List String} (h : l.Pairwise (· < ·)) :
    (insertSorted a l).Pairwise (· < ·) := by
  induction l with
  | nil => simp [insertSorted]
  | cons b l ih =>
    rw [List.pairwise_cons] at h
    unfold insertSorted
    split
    · next hlt => grind [List.pairwise_cons]
    · split
      · grind [List.pairwise_cons]
      · rw [List.pairwise_cons]
        refine ⟨fun x hx => ?_, ih h.2⟩
        rcases mem_insertSorted.mp hx with rfl | hx
        · grind
        · exact h.1 x hx

theorem pairwise_nil : ([] : List String).Pairwise (· < ·) := List.Pairwise.nil

/-- An increasing list is determined by its members. -/
theorem eq_of_mem_iff {l₁ l₂ : List String} (h₁ : l₁.Pairwise (· < ·))
    (h₂ : l₂.Pairwise (· < ·)) (h : ∀ x, x ∈ l₁ ↔ x ∈ l₂) : l₁ = l₂ := by
  induction l₁ generalizing l₂ with
  | nil =>
    cases l₂ with
    | nil => rfl
    | cons b l₂ => exact absurd ((h b).mpr (by simp)) (by simp)
  | cons a l₁ ih =>
    cases l₂ with
    | nil => exact absurd ((h a).mp (by simp)) (by simp)
    | cons b l₂ =>
      rw [List.pairwise_cons] at h₁ h₂
      have hab : a = b := by
        have ha := (h a).mp (by simp)
        have hb := (h b).mpr (by simp)
        grind
      subst hab
      rw [ih h₁.2 h₂.2]
      intro x
      have := h x
      grind

/-! ### Sets -/

instance : Membership String NameSet := ⟨fun s a => a ∈ s.toList⟩

instance (a : String) (s : NameSet) : Decidable (a ∈ s) :=
  inferInstanceAs (Decidable (a ∈ s.toList))

@[simp] theorem mem_toList {a : String} {s : NameSet} : a ∈ s.toList ↔ a ∈ s := Iff.rfl

/-- Two sets with the same members are equal. -/
theorem ext {s t : NameSet} (h : ∀ a, a ∈ s ↔ a ∈ t) : s = t := by
  cases s with
  | mk l₁ h₁ =>
    cases t with
    | mk l₂ h₂ =>
      congr
      exact eq_of_mem_iff h₁ h₂ h

/-- A set lists each of its members once. -/
theorem nodup_toList (s : NameSet) : s.toList.Nodup := s.increasing.imp String.ne_of_lt

/-- The set without members. -/
def empty : NameSet := ⟨[], pairwise_nil⟩

instance : EmptyCollection NameSet := ⟨empty⟩
instance : Inhabited NameSet := ⟨empty⟩

@[simp] theorem not_mem_empty {a : String} : a ∉ (∅ : NameSet) := List.not_mem_nil

/-- The number of members. -/
def size (s : NameSet) : Nat := s.toList.length

/-- Whether the set has no member. -/
def isEmpty (s : NameSet) : Bool := s.toList.isEmpty

theorem isEmpty_iff {s : NameSet} : s.isEmpty = true ↔ s = ∅ := by
  obtain ⟨names, hincreasing⟩ := s
  constructor
  · intro h
    obtain rfl : names = [] := List.isEmpty_iff.mp h
    rfl
  · rintro ⟨⟩
    rfl

/-- The set with one more member. -/
def insert (s : NameSet) (a : String) : NameSet :=
  ⟨insertSorted a s.toList, pairwise_insertSorted s.increasing⟩

@[simp] theorem mem_insert {s : NameSet} {a x : String} : x ∈ s.insert a ↔ x = a ∨ x ∈ s :=
  mem_insertSorted

/-- The set with the names of a list added. -/
def insertAll (s : NameSet) (names : List String) : NameSet := names.foldl insert s

@[simp] theorem mem_insertAll {s : NameSet} {names : List String} {x : String} :
    x ∈ s.insertAll names ↔ x ∈ s ∨ x ∈ names := by
  induction names generalizing s with
  | nil => simp [insertAll]
  | cons a names ih =>
    have := ih (s := s.insert a)
    simp only [insertAll, List.foldl_cons, mem_insert, List.mem_cons] at this ⊢
    rw [this]
    grind

/-- The set of the names of a list. -/
def ofList (names : List String) : NameSet := (∅ : NameSet).insertAll names

@[simp] theorem mem_ofList {names : List String} {x : String} : x ∈ ofList names ↔ x ∈ names := by
  simp [ofList]

/-- The set of the members of an increasing list is that list. -/
theorem ofList_toList (s : NameSet) : ofList s.toList = s := ext (by simp)

instance : Union NameSet := ⟨fun s t => s.insertAll t.toList⟩

@[simp] theorem mem_union {s t : NameSet} {x : String} : x ∈ s ∪ t ↔ x ∈ s ∨ x ∈ t := by
  change x ∈ s.insertAll t.toList ↔ _
  simp

/-- The members that satisfy a test. -/
def filter (s : NameSet) (p : String → Bool) : NameSet :=
  ⟨s.toList.filter p, s.increasing.filter p⟩

@[simp] theorem mem_filter {s : NameSet} {p : String → Bool} {x : String} :
    x ∈ s.filter p ↔ x ∈ s ∧ p x = true := List.mem_filter

theorem toList_filter (s : NameSet) (p : String → Bool) :
    (s.filter p).toList = s.toList.filter p := rfl

instance : SDiff NameSet := ⟨fun s t => s.filter fun a => a ∉ t⟩

@[simp] theorem mem_sdiff {s t : NameSet} {x : String} : x ∈ s \ t ↔ x ∈ s ∧ x ∉ t := by
  change x ∈ s.filter _ ↔ _
  simp

/-- Taking names away that were still there leaves that many fewer behind. -/
theorem size_sdiff_union_add {s t u : NameSet} (h : ∀ a ∈ u, a ∈ s ∧ a ∉ t) :
    (s \ (t ∪ u)).size + u.size = (s \ t).size := by
  have hkept : (s \ t).filter (fun a => !decide (a ∈ u)) = s \ (t ∪ u) := by
    refine ext fun a => ?_
    simp only [mem_filter, mem_sdiff, mem_union]
    grind
  have htaken : (s \ t).filter (fun a => decide (a ∈ u)) = u := by
    refine ext fun a => ?_
    simp only [mem_filter, mem_sdiff]
    grind
  have hsplit := List.length_eq_countP_add_countP (fun a => decide (a ∈ u)) (l := (s \ t).toList)
  simp only [List.countP_eq_length_filter, Bool.not_eq_true, Bool.decide_eq_false] at hsplit
  rw [← toList_filter, ← toList_filter, htaken, hkept] at hsplit
  change (s \ (t ∪ u)).toList.length + u.toList.length = (s \ t).toList.length
  omega

/-- Taking a name away that was still there leaves fewer behind. -/
theorem size_sdiff_union_lt {s t u : NameSet} {a : String} (hs : a ∈ s) (ht : a ∉ t)
    (hu : a ∈ u) : (s \ (t ∪ u)).size < (s \ t).size := by
  change (s.toList.filter _).length < (s.toList.filter _).length
  have hle : ∀ l : List String, (l.filter fun b => b ∉ t ∪ u).length ≤
      (l.filter fun b => b ∉ t).length := by
    intro l
    induction l with
    | nil => simp
    | cons b l ih => grind [mem_union]
  have hlt : ∀ l : List String, a ∈ l → (l.filter fun b => b ∉ t ∪ u).length <
      (l.filter fun b => b ∉ t).length := by
    intro l hl
    induction l with
    | nil => simp at hl
    | cons b l ih =>
      have := hle l
      grind [mem_union]
  exact hlt s.toList hs

end NameSet

end RestDeployment
