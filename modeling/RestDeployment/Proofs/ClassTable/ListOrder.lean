import RestDeployment.Proofs.ClassTable.Implementors

/-!
# Tables and the order of their lists

Of several entries with one name the last in the list counts (`class?_ofList_iff`).  Beyond that
the order of a list is of no account: a table answers every question from its entries, in the
order of names (`Consistent.toIndex_eq`), so lists with distinct names give the same answers in
any order (`toIndex_ofList_perm`).
-/

namespace RestDeployment.ClassTable

variable {t t' : ClassTable} {classes classes' : List ClassEntry} {c : ClassEntry} {n : String}

/-! ### The entries that count -/

/-- The last entry of its name in a list. -/
def LastOfName (classes : List ClassEntry) (c : ClassEntry) : Prop :=
  ∃ before after, classes = before ++ c :: after ∧ ∀ d ∈ after, d.name ≠ c.name

theorem lastOfName_cons {first : ClassEntry} :
    LastOfName (first :: classes) c ↔
      c = first ∧ (∀ d ∈ classes, d.name ≠ c.name) ∨ LastOfName classes c := by
  constructor
  · rintro ⟨before, after, hsplit, hafter⟩
    cases before with
    | nil =>
        obtain ⟨rfl, rfl⟩ := List.cons.inj hsplit
        exact .inl ⟨rfl, hafter⟩
    | cons _ before =>
        obtain ⟨-, rfl⟩ := List.cons.inj hsplit
        exact .inr ⟨before, after, rfl, hafter⟩
  · rintro (⟨rfl, hafter⟩ | ⟨before, after, rfl, hafter⟩)
    · exact ⟨[], classes, rfl, hafter⟩
    · exact ⟨first :: before, after, rfl, hafter⟩

private theorem class?_foldl_insert_iff (t : ClassTable) :
    (classes.foldl ClassTable.insert t).class? n = some c ↔
      c.name = n ∧ LastOfName classes c ∨ t.class? n = some c ∧ ∀ d ∈ classes, d.name ≠ n := by
  induction classes generalizing t with
  | nil => simp [LastOfName]
  | cons first classes ih =>
      rw [List.foldl_cons, ih, class?_insert, lastOfName_cons, List.forall_mem_cons]
      by_cases hn : n = first.name
      · grind
      · grind

/-- **The entry that a table has for a name** is the last one of that name in its list. -/
theorem class?_ofList_iff :
    (ofList classes).class? n = some c ↔ c.name = n ∧ LastOfName classes c := by
  have hempty : ({} : ClassTable).class? n = none := rfl
  rw [ofList, class?_foldl_insert_iff, hempty]
  simp

/-- There is one last entry of a name, and it is the one that the table has. -/
theorem LastOfName.eq_of_class? {c' : ClassEntry} (h : LastOfName classes c) (hname : c.name = n)
    (hclass : (ofList classes).class? n = some c') : c = c' :=
  Option.some.inj ((class?_ofList_iff.mpr ⟨hname, h⟩).symm.trans hclass)

/-- No two entries that count share a name. -/
theorem LastOfName.eq {c' : ClassEntry} (h : LastOfName classes c) (h' : LastOfName classes c')
    (hname : c.name = c'.name) : c = c' :=
  h.eq_of_class? hname (class?_ofList_iff.mpr ⟨rfl, h'⟩)

theorem lastOfName_iff_mem (hdistinct : (classes.map (·.name)).Nodup) :
    LastOfName classes c ↔ c ∈ classes := by
  constructor
  · rintro ⟨before, after, rfl, -⟩
    exact List.mem_append_right _ List.mem_cons_self
  · intro hc
    obtain ⟨before, after, rfl⟩ := List.append_of_mem hc
    refine ⟨before, after, rfl, fun d hd hname => ?_⟩
    rw [List.map_append, List.map_cons, List.nodup_append, List.nodup_cons] at hdistinct
    exact hdistinct.2.1.1 (List.mem_map.mpr ⟨d, hd, hname⟩)

/-! ### Tables with the same entries -/

theorem classes_congr (hclass : ∀ n, t.class? n = t'.class? n) : t.classes = t'.classes :=
  NameMap.ext hclass

theorem extends_congr (hclass : ∀ n, t.class? n = t'.class? n) : t.Extends = t'.Extends := by
  funext n p
  rw [Extends, Extends, hclass]

theorem implements_congr (hclass : ∀ n, t.class? n = t'.class? n) :
    t.Implements = t'.Implements := by
  have hrefines : t.Refines = t'.Refines := by
    funext n i
    rw [Refines, Refines, hclass]
  funext n i
  simp only [Implements, ImplementsDirectly, extends_congr hclass, hrefines, hclass]

/-- **A table answers every question from its entries**, whatever way they were put in. -/
theorem Consistent.toIndex_eq (h : t.Consistent) (h' : t'.Consistent)
    (hclass : ∀ n, t.class? n = t'.class? n) : t.toIndex = t'.toIndex := by
  have hclasses : t.classes = t'.classes := classes_congr hclass
  have hannotated : t.annotated = t'.annotated := by
    funext marker
    rw [annotated, annotated, hclasses]
  have hsubtypes : t.subtypes = t'.subtypes := by
    funext ancestor
    have hnames : t.subclassNames [ancestor] = t'.subclassNames [ancestor] := by
      refine NameSet.ext fun n => ?_
      rw [mem_subclassNames h.linked, mem_subclassNames h'.linked, Inherits, Inherits,
        extends_congr hclass]
    rw [subtypes, subtypes, entriesOf, entriesOf, hclasses, hnames]
  have himplementors : t.implementorsOf = t'.implementorsOf := by
    funext i
    have hnames : t.implementorNames i = t'.implementorNames i := by
      refine NameSet.ext fun n => ?_
      rw [mem_implementorNames h, mem_implementorNames h', implements_congr hclass]
    rw [implementorsOf, implementorsOf, entriesOf, entriesOf, hclasses, hnames]
  rw [toIndex, toIndex, hclasses, hannotated, hsubtypes, himplementors]

/-! ### Lists in another order -/

theorem class?_ofList_perm (hperm : classes.Perm classes')
    (hdistinct : (classes.map (·.name)).Nodup) (n : String) :
    (ofList classes).class? n = (ofList classes').class? n := by
  have hdistinct' : (classes'.map (·.name)).Nodup := (hperm.map _).nodup_iff.mp hdistinct
  refine Option.ext fun c => ?_
  rw [class?_ofList_iff, class?_ofList_iff, lastOfName_iff_mem hdistinct,
    lastOfName_iff_mem hdistinct', hperm.mem_iff]

theorem toIndex_ofList_perm (hperm : classes.Perm classes')
    (hdistinct : (classes.map (·.name)).Nodup) :
    (ofList classes).toIndex = (ofList classes').toIndex :=
  (consistent_ofList classes).toIndex_eq (consistent_ofList classes')
    (class?_ofList_perm hperm hdistinct)

theorem loader_ofList_perm (hperm : classes.Perm classes')
    (hdistinct : (classes.map (·.name)).Nodup) (visible : List String) :
    (ofList classes).loader visible = (ofList classes').loader visible := by
  rw [loader, loader, classes_congr (class?_ofList_perm hperm hdistinct)]

end RestDeployment.ClassTable
