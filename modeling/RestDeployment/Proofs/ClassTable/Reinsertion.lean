import RestDeployment.Config
import RestDeployment.Proofs.ClassTable.ListOrder

/-!
# Classes that are put in again

A class may be put into a table several times, each time with another superclass, other interfaces
or other annotations.  What counts is its last version (`lastVersions`), and nothing is left of the
ones before: the table answers every question like one into which only the last versions were put,
in any order, and its links are those that the last versions name (`answers_as_rebuilt`).

A table is determined in its answers by its entries (`Consistent.toIndex_eq`), so it is enough that
both tables have the same entry for each name.
-/

namespace RestDeployment.ClassTable

variable {t t' : ClassTable} {classes classes' : List ClassEntry} {c : ClassEntry} {n p i : String}

/-! ### Last versions -/

/-- The entries of a list that no later one of the same name replaces. -/
def lastVersions : List ClassEntry → List ClassEntry
  | [] => []
  | c :: classes =>
    if c.name ∈ classes.map (·.name) then lastVersions classes else c :: lastVersions classes

theorem mem_lastVersions : c ∈ lastVersions classes ↔ LastOfName classes c := by
  induction classes with
  | nil => simp [lastVersions, LastOfName]
  | cons first classes ih =>
      rw [lastVersions, lastOfName_cons]
      by_cases hagain : first.name ∈ classes.map (·.name)
      · -- the first entry is replaced later on
        obtain ⟨d, hd, hname⟩ := List.mem_map.mp hagain
        rw [if_pos hagain, ih]
        refine (or_iff_right ?_).symm
        rintro ⟨rfl, hnone⟩
        exact hnone d hd hname
      · have hnone : ∀ d ∈ classes, d.name ≠ first.name := by
          intro d hd hname
          exact hagain (List.mem_map.mpr ⟨d, hd, hname⟩)
        rw [if_neg hagain, List.mem_cons, ih]
        refine or_congr_left ⟨fun heq => ⟨heq, heq ▸ hnone⟩, And.left⟩

theorem nodup_names_lastVersions (classes : List ClassEntry) :
    ((lastVersions classes).map (·.name)).Nodup := by
  induction classes with
  | nil => exact List.nodup_nil
  | cons first classes ih =>
      rw [lastVersions]
      split
      · exact ih
      · next hagain =>
          rw [List.map_cons, List.nodup_cons]
          refine ⟨fun hmem => ?_, ih⟩
          obtain ⟨d, hd, hname⟩ := List.mem_map.mp hmem
          obtain ⟨before, after, rfl, -⟩ := mem_lastVersions.mp hd
          exact hagain (List.mem_map.mpr ⟨d, List.mem_append_right _ List.mem_cons_self, hname⟩)

theorem class?_ofList_eq_some_iff :
    (ofList classes).class? n = some c ↔ c ∈ lastVersions classes ∧ c.name = n := by
  rw [class?_ofList_iff, mem_lastVersions, and_comm]

/-- A table has the same entries as one of the last versions only, whatever their order. -/
theorem class?_ofList_lastVersions (hperm : classes'.Perm (lastVersions classes)) (n : String) :
    (ofList classes).class? n = (ofList classes').class? n := by
  have hdistinct : (classes'.map (·.name)).Nodup :=
    (hperm.map _).nodup_iff.mpr (nodup_names_lastVersions classes)
  refine Option.ext fun c => ?_
  rw [class?_ofList_eq_some_iff, class?_ofList_iff, lastOfName_iff_mem hdistinct, hperm.mem_iff,
    and_comm]

/-! ### Links -/

/-- Below a name are the classes whose last version names it as superclass. -/
theorem mem_subclasses_ofList :
    n ∈ children (ofList classes).subclasses p ↔
      ∃ c ∈ lastVersions classes, c.name = n ∧ c.superName = some p := by
  rw [(consistent_ofList classes).superclasses n p]
  simp only [class?_ofList_eq_some_iff, superNames, Option.mem_toList, and_assoc]

/-- Below an interface are the classes and interfaces whose last version lists it. -/
theorem mem_implementors_ofList :
    n ∈ children (ofList classes).implementors i ↔
      ∃ c ∈ lastVersions classes, c.name = n ∧ i ∈ c.interfaces := by
  rw [(consistent_ofList classes).interfaces n i]
  simp only [class?_ofList_eq_some_iff, and_assoc]

/-! ### Answers -/

/-- Two tables answer every question alike. -/
structure AnswerAlike (t t' : ClassTable) : Prop where
  size : t.size = t'.size
  listed : t.classes.values = t'.classes.values
  annotated : ∀ marker, t.annotated marker = t'.annotated marker
  subtypes : ∀ n, t.subtypes n = t'.subtypes n
  implementors : ∀ i, t.implementorsOf i = t'.implementorsOf i
  entry : ∀ n, t.class? n = t'.class? n

theorem answerAlike_of_class? (h : t.Consistent) (h' : t'.Consistent)
    (hclass : ∀ n, t.class? n = t'.class? n) : AnswerAlike t t' := by
  have hindex : t.toIndex = t'.toIndex := h.toIndex_eq h' hclass
  have hclasses : t.classes = t'.classes := congrArg ClassIndex.classes hindex
  constructor
  case size => rw [ClassTable.size, ClassTable.size, hclasses]
  case listed => rw [hclasses]
  case annotated => exact congrFun (congrArg ClassIndex.annotated hindex)
  case subtypes => exact congrFun (congrArg ClassIndex.subtypes hindex)
  case implementors => exact congrFun (congrArg ClassIndex.implementors hindex)
  case entry => exact hclass

/-- **Only the last version of a class counts.**  However often classes are put into a table again,
it answers every question like a table of their last versions alone, put in in any order; and a
class is linked below another one, or below an interface, exactly if its last version names it. -/
theorem answers_as_rebuilt (classes classes' : List ClassEntry)
    (hperm : classes'.Perm (lastVersions classes)) :
    AnswerAlike (ofList classes) (ofList classes') ∧
      (∀ n p, n ∈ children (ofList classes).subclasses p ↔
        ∃ c ∈ lastVersions classes, c.name = n ∧ c.superName = some p) ∧
      ∀ n i, n ∈ children (ofList classes).implementors i ↔
        ∃ c ∈ lastVersions classes, c.name = n ∧ i ∈ c.interfaces := by
  refine ⟨?_, fun n p => mem_subclasses_ofList, fun n i => mem_implementors_ofList⟩
  exact answerAlike_of_class? (consistent_ofList classes) (consistent_ofList classes')
    (class?_ofList_lastVersions hperm)

/-- A shop that is an application at first, then extends itself and lists an interface twice, and
in the end is a plain class behind another interface. -/
def revisedClasses : List ClassEntry :=
  [shop (some applicationClass) ["Old"], entry "Api" .interface none [],
    shop (some "Shop") ["Old", "Old"], entry "Items" .ordinary (some "Shop") [],
    shop none ["Api"]]
where
  entry (name : String) (kind : ClassKind) (superName : Option String) (interfaces : List String) :
      ClassEntry :=
    ⟨name, kind, [], superName, interfaces, [], [], []⟩
  shop (superName : Option String) (interfaces : List String) : ClassEntry :=
    entry "Shop" .ordinary superName interfaces

/-- Nothing is left of the first two versions of the shop: it is neither an application nor its own
subclass, and the interface that it listed twice has no implementor any more. -/
theorem answers_as_rebuilt_revisedClasses :
    (lastVersions revisedClasses).reverse.Perm (lastVersions revisedClasses) ∧
      AnswerAlike (ofList revisedClasses) (ofList (lastVersions revisedClasses).reverse) ∧
      (∀ n, n ∉ children (ofList revisedClasses).subclasses applicationClass) ∧
      (∀ n, n ∈ children (ofList revisedClasses).subclasses "Shop" ↔ n = "Items") ∧
      (∀ n, n ∉ children (ofList revisedClasses).implementors "Old") ∧
      ∀ n, n ∈ children (ofList revisedClasses).implementors "Api" ↔ n = "Shop" := by
  have hperm := List.reverse_perm (lastVersions revisedClasses)
  obtain ⟨halike, hsubclasses, himplementors⟩ := answers_as_rebuilt revisedClasses _ hperm
  have hlast : lastVersions revisedClasses =
      [revisedClasses.entry "Api" .interface none [],
        revisedClasses.entry "Items" .ordinary (some "Shop") [],
        revisedClasses.shop none ["Api"]] := rfl
  rw [hlast] at hsubclasses himplementors
  refine ⟨hperm, halike, fun n => ?_, fun n => ?_, fun n => ?_, fun n => ?_⟩
  · rw [hsubclasses]
    simp [revisedClasses.entry, revisedClasses.shop, applicationClass]
  · rw [hsubclasses]
    simp [revisedClasses.entry, revisedClasses.shop, eq_comm]
  · rw [himplementors]
    simp [revisedClasses.entry, revisedClasses.shop]
  · rw [himplementors]
    simp [revisedClasses.entry, revisedClasses.shop, eq_comm]

end RestDeployment.ClassTable
