import RestDeployment.ClassTable
import RestDeployment.Proofs.ClassLoader

/-!
# The classes of a table and what it loads

A table that was made from a list of class entries knows the names in that list and no
others (`isSome_class?_ofList`), every class under its own name (`name_of_class?_ofList`).
Its loader loads those names and the visible ones (`load_eq_ok_iff`), so every class that
the table finds below another can be loaded (`load_of_mem_subtypes`).
-/

namespace RestDeployment

namespace ClassTable

variable {t : ClassTable} {classes : List ClassEntry} {visible : List String} {n : String}
  {c : ClassEntry}

/-! ### The entries of a table -/

@[simp] theorem classes_insert (t : ClassTable) (c : ClassEntry) :
    (t.insert c).classes = t.classes.insert c.name c := rfl

theorem class?_insert (t : ClassTable) (c : ClassEntry) (n : String) :
    (t.insert c).class? n = if n = c.name then some c else t.class? n := by
  simp only [class?, classes_insert, NameMap.get?_insert]

/-- Every class is entered under its own name. -/
def Keyed (t : ClassTable) : Prop := ∀ n c, t.class? n = some c → c.name = n

theorem Keyed.insert (h : t.Keyed) (c : ClassEntry) : (t.insert c).Keyed := by
  intro n c' hc'
  rw [class?_insert] at hc'
  split at hc'
  · next hn =>
      cases hc'
      exact hn.symm
  · exact h n c' hc'

theorem keyed_ofList (classes : List ClassEntry) : (ofList classes).Keyed := by
  refine List.foldlRecOn (motive := Keyed) classes ClassTable.insert ?_ ?_
  · intro n c hc
    have hempty : ({} : ClassTable).class? n = none := rfl
    rw [hempty] at hc
    cases hc
  · intro t ht c _
    exact ht.insert c

/-- The entry that a table has for a name is among its entries. -/
theorem mem_values_classes (h : t.Keyed) : c ∈ t.classes.values ↔ t.class? c.name = some c :=
  NameMap.mem_values h

/-- The entries of a table are listed in name order. -/
theorem increasing_values_classes (h : t.Keyed) :
    (t.classes.values.map (·.name)).Pairwise (· < ·) := by
  rw [NameMap.map_key_values h]
  exact t.classes.keys.increasing

private theorem isSome_class?_foldl_insert (t : ClassTable) (classes : List ClassEntry)
    (n : String) :
    ((classes.foldl ClassTable.insert t).class? n).isSome = true ↔
      (t.class? n).isSome = true ∨ n ∈ classes.map (·.name) := by
  induction classes generalizing t with
  | nil => simp
  | cons c classes ih =>
      rw [List.foldl_cons, ih, class?_insert, List.map_cons, List.mem_cons]
      by_cases hn : n = c.name
      · simp [hn]
      · simp [hn]

/-- A table of a list knows the names in the list. -/
theorem isSome_class?_ofList (classes : List ClassEntry) (n : String) :
    ((ofList classes).class? n).isSome = true ↔ n ∈ classes.map (·.name) := by
  have hempty : ({} : ClassTable).class? n = none := rfl
  rw [ofList, isSome_class?_foldl_insert, hempty]
  simp

private theorem mem_of_class?_foldl_insert {classes : List ClassEntry} (t : ClassTable)
    (h : (classes.foldl ClassTable.insert t).class? n = some c) :
    t.class? n = some c ∨ c ∈ classes := by
  induction classes generalizing t with
  | nil => exact .inl h
  | cons c' classes ih =>
      rcases ih (t.insert c') h with hinsert | hmem
      · rw [class?_insert] at hinsert
        split at hinsert
        · rw [Option.some.inj hinsert]
          exact .inr List.mem_cons_self
        · exact .inl hinsert
      · exact .inr (List.mem_cons_of_mem _ hmem)

/-- The entries of the table of a list are in the list. -/
theorem mem_of_class?_ofList (h : (ofList classes).class? n = some c) : c ∈ classes := by
  have hempty : ({} : ClassTable).class? n = none := rfl
  rcases mem_of_class?_foldl_insert {} h with hstart | hmem
  · rw [hempty] at hstart
    cases hstart
  · exact hmem

/-! ### Loading -/

theorem load_of_class? (h : t.class? n = some c) :
    (t.loader visible).load n = .ok ⟨n, some c⟩ := by
  have hget : t.classes.get? n = some c := h
  simp only [loader, ClassLoader.ofClasses, hget]

theorem load_of_class?_eq_none (h : t.class? n = none) :
    (t.loader visible).load n =
      if n ∈ visible then .ok ⟨n, none⟩ else .error (.notFound n) := by
  have hget : t.classes.get? n = none := h
  simp only [loader, ClassLoader.ofClasses, hget, List.contains_iff_mem]

/-- A class is loaded under the name that was asked for, with its entry if the table has
one. -/
theorem load_eq_ok_iff {handle : ClassHandle} :
    (t.loader visible).load n = .ok handle ↔
      handle = ⟨n, t.class? n⟩ ∧ ((t.class? n).isSome = true ∨ n ∈ visible) := by
  cases hclass : t.class? n with
  | some c => simp [load_of_class? hclass, eq_comm]
  | none =>
      rw [load_of_class?_eq_none hclass]
      by_cases hvisible : n ∈ visible
      · simp [hvisible, eq_comm]
      · simp [hvisible]

theorem keepsNames_loader (t : ClassTable) (visible : List String) :
    (t.loader visible).KeepsNames := by
  intro n handle hload
  obtain ⟨rfl, -⟩ := load_eq_ok_iff.mp hload
  rfl

theorem namesMissing_loader (t : ClassTable) (visible : List String) :
    (t.loader visible).NamesMissing := by
  intro n e hload
  cases hclass : t.class? n with
  | some c =>
      rw [load_of_class? hclass] at hload
      cases hload
  | none =>
      rw [load_of_class?_eq_none hclass] at hload
      split at hload
      · cases hload
      · exact (Except.error.inj hload).symm

/-! ### Subtypes -/

/-- What a table answers about subtypes are entries of its own. -/
theorem class?_of_mem_subtypes (h : t.Keyed) (hc : c ∈ t.subtypes n) :
    t.class? c.name = some c := by
  obtain ⟨key, -, hkey⟩ := List.mem_filterMap.mp hc
  have hclass : t.class? key = some c := hkey
  rw [h key c hclass]
  exact hclass

/-- Every subtype can be loaded, whatever else is visible. -/
theorem load_of_mem_subtypes (h : t.Keyed) (hc : c ∈ t.subtypes n) :
    ∃ handle, (t.loader visible).load c.name = .ok handle :=
  ⟨_, load_of_class? (class?_of_mem_subtypes h hc)⟩

end ClassTable

end RestDeployment
