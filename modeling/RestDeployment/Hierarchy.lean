import RestDeployment.ClassIndex

/-!
# Superclasses over several indexes

A class may extend one that another unit provides.  A hierarchy looks classes up
in a list of indexes, the first that knows a class being the one that counts,
and follows superclasses upwards.  The walk ends at a class that has no entry,
that names no superclass, or that was passed before.
-/

namespace RestDeployment

/-- The indexes in which superclasses are looked up, in order. -/
structure Hierarchy where
  indexes : List ClassIndex

namespace Hierarchy

/-- The entry of a class in the first index that has one. -/
def class? (h : Hierarchy) (name : String) : Option ClassEntry :=
  h.indexes.findSome? fun index => index.classes.get? name

/-- The names of all classes that some index knows. -/
def names (h : Hierarchy) : NameSet :=
  h.indexes.foldl (fun names index => names ∪ index.classes.keys) ∅

theorem mem_names_of_class? {h : Hierarchy} {name : String} {c : ClassEntry}
    (hc : h.class? name = some c) : name ∈ h.names := by
  obtain ⟨index, hindex, hget⟩ := List.exists_of_findSome?_eq_some hc
  have hkey : name ∈ index.classes.keys := NameMap.mem_keys.mpr (by simp [hget])
  have hfold : ∀ (l : List ClassIndex) (s : NameSet), index ∈ l ∨ name ∈ s →
      name ∈ l.foldl (fun names index => names ∪ index.classes.keys) s := by
    intro l
    induction l with
    | nil => simp
    | cons i l ih =>
      intro s hs
      rw [List.foldl_cons]
      refine ih _ ?_
      rcases hs with hs | hs
      · rcases List.mem_cons.mp hs with rfl | hs
        · exact Or.inr (NameSet.mem_union.mpr (Or.inr hkey))
        · exact Or.inl hs
      · exact Or.inr (NameSet.mem_union.mpr (Or.inl hs))
  exact hfold _ _ (Or.inl hindex)

/-- Whether following superclasses from a class leads to an ancestor, without
passing a name that was seen. -/
def climbs (h : Hierarchy) (ancestor : String) (seen : NameSet) (c : ClassEntry) : Bool :=
  match c.superName with
  | none => false
  | some parent =>
    if parent = ancestor then true
    else if _hseen : parent ∈ seen then false
    else match _hparent : h.class? parent with
      | none => false
      | some next => climbs h ancestor (seen ∪ NameSet.ofList [parent]) next
  termination_by (h.names \ seen).size
  decreasing_by
    exact NameSet.size_sdiff_union_lt (mem_names_of_class? _hparent) _hseen (by simp)

/-- Whether a loaded class is an ancestor or extends it. -/
def descends (h : Hierarchy) (handle : ClassHandle) (ancestor : String) : Bool :=
  if handle.name = ancestor then true
  else match handle.entry.or (h.class? handle.name) with
    | none => false
    | some c => h.climbs ancestor (NameSet.ofList [handle.name]) c

end Hierarchy

end RestDeployment
