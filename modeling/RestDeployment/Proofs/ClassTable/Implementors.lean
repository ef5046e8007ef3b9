import RestDeployment.Proofs.ClassTable.Superclasses

/-!
# Implementors in a table

A class implements an interface if a chain of superclasses leads from it to a class that lists
the interface or one that extends it.  A table finds the implementors by two walks downwards, the
first from interface to interface and the second from class to class.  The walks see the same
links but never mix: an interface below the one that was asked for is no implementor itself, and
only classes hand on to their subclasses what they implement (`mem_implementorsOf_iff`).
-/

namespace RestDeployment.ClassTable

variable {t : ClassTable} {c : ClassEntry} {n i j : String}

/-- The entry of a name is that of an interface and lists another one. -/
def Refines (t : ClassTable) (n i : String) : Prop :=
  ∃ c, t.class? n = some c ∧ c.isInterface = true ∧ i ∈ c.interfaces

/-- A class that is no interface lists an interface or one that extends it. -/
def ImplementsDirectly (t : ClassTable) (n i : String) : Prop :=
  ∃ c, t.class? n = some c ∧ c.isInterface = false ∧
    ∃ j ∈ c.interfaces, Relation.ReflTransGen t.Refines j i

/-- A class, or one that it extends, lists an interface or one that extends that. -/
def Implements (t : ClassTable) (n i : String) : Prop :=
  ∃ d, Relation.ReflTransGen t.Extends n d ∧ t.ImplementsDirectly d i

/-! ### From interface to interface -/

theorem isInterface_of_class? (h : t.class? n = some c) : t.isInterface n = c.isInterface := by
  have hget : t.classes.get? n = some c := h
  rw [isInterface, hget, Option.any_some]

theorem mem_subinterfaces (h : t.Consistent) : n ∈ t.subinterfaces i ↔ t.Refines n i := by
  rw [subinterfaces, List.mem_filter, h.interfaces]
  constructor
  · rintro ⟨⟨c, hc, hi⟩, hinterface⟩
    exact ⟨c, hc, isInterface_of_class? hc ▸ hinterface, hi⟩
  · rintro ⟨c, hc, hinterface, hi⟩
    exact ⟨⟨c, hc, hi⟩, isInterface_of_class? hc ▸ hinterface⟩

theorem mem_interfaceFamily (h : t.Consistent) :
    j ∈ t.interfaceFamily i ↔ Relation.ReflTransGen t.Refines j i := by
  have hlink : NameSet.Link t.subinterfaces t.classes.keys = Function.swap t.Refines := by
    funext i j
    refine propext ⟨fun hj => (mem_subinterfaces h).mp hj.1, fun hj => ?_⟩
    obtain ⟨c, hc, -⟩ := id hj
    refine ⟨(mem_subinterfaces h).mpr hj, NameMap.mem_keys.mpr ?_⟩
    exact Option.isSome_iff_exists.mpr ⟨c, hc⟩
  rw [interfaceFamily, List.mem_cons, NameSet.mem_toList, NameSet.mem_reach, hlink,
    Relation.reflTransGen_iff_eq_or_transGen]
  simp only [List.mem_singleton, exists_eq_left, Relation.transGen_swap]
  exact or_congr_left eq_comm

/-! ### From interfaces to classes -/

theorem mem_directImplementors (h : t.Consistent) :
    n ∈ t.directImplementors i ↔
      ∃ c, t.class? n = some c ∧ c.isInterface = false ∧ i ∈ c.interfaces := by
  rw [directImplementors, List.mem_filter, h.interfaces, Bool.not_eq_true']
  constructor
  · rintro ⟨⟨c, hc, hi⟩, hclass⟩
    exact ⟨c, hc, isInterface_of_class? hc ▸ hclass, hi⟩
  · rintro ⟨c, hc, hclass, hi⟩
    exact ⟨⟨c, hc, hi⟩, isInterface_of_class? hc ▸ hclass⟩

theorem mem_flatMap_directImplementors (h : t.Consistent) :
    n ∈ (t.interfaceFamily i).flatMap t.directImplementors ↔ t.ImplementsDirectly n i := by
  simp only [List.mem_flatMap, mem_interfaceFamily h, mem_directImplementors h]
  constructor
  · rintro ⟨j, hfamily, c, hc, hclass, hj⟩
    exact ⟨c, hc, hclass, j, hj, hfamily⟩
  · rintro ⟨c, hc, hclass, j, hj, hfamily⟩
    exact ⟨j, hfamily, c, hc, hclass, hj⟩

theorem mem_implementorNames (h : t.Consistent) :
    n ∈ t.implementorNames i ↔ t.Implements n i := by
  rw [implementorNames, NameSet.mem_union, NameSet.mem_ofList, mem_subclassNames h.linked]
  simp only [mem_flatMap_directImplementors h, Implements,
    Relation.reflTransGen_iff_eq_or_transGen]
  constructor
  · rintro (hdirect | ⟨d, hdirect, hinherits⟩)
    · exact ⟨n, .inl rfl, hdirect⟩
    · exact ⟨d, .inr hinherits, hdirect⟩
  · rintro ⟨d, rfl | hinherits, hdirect⟩
    · exact .inl hdirect
    · exact .inr ⟨d, hdirect, hinherits⟩

/-- **The implementors that a table finds** are the classes of which its entries say, over any
number of superclasses and of interfaces, that they implement the interface. -/
theorem mem_implementorsOf_iff (h : t.Consistent) :
    c ∈ t.implementorsOf i ↔ t.class? c.name = some c ∧ t.Implements c.name i := by
  rw [implementorsOf, mem_entriesOf h.keyed, mem_implementorNames h]

end RestDeployment.ClassTable
