import Mathlib.Data.List.TakeDrop
import RestDeployment.Config
import RestDeployment.Proofs.ClassTable.ListOrder

/-!
# Uses of an annotation

An annotation can stand on a class, on its methods and on its fields, and on each of these more
than once.  A table reports the occurrences of an annotation in the order of class names, for each
class those on the class itself, then on its methods, then on its fields (`annotated_eq_flatMap`).

Members and classes are treated differently.  On a member every use is reported, on a class only
the first one.  So every use is reported exactly if no class carries the annotation twice
(`annotated_eq_uses_iff`).
-/

namespace RestDeployment

/-- An element of a class that annotations can stand on. -/
structure Element where
  site : Site
  annotations : List Annotation

/-- One occurrence for every use of an annotation on an element. -/
def Element.uses (marker : String) (e : Element) : List Occurrence :=
  (e.annotations.filter fun a => a.name == marker).map fun a => Occurrence.ofAnnotation a e.site

theorem Element.site_of_mem_uses {marker : String} {e : Element} {o : Occurrence}
    (h : o ∈ e.uses marker) : o.site = e.site := by
  obtain ⟨a, -, rfl⟩ := List.mem_map.mp h
  rfl

namespace ClassEntry

/-- The class itself. -/
def itself (c : ClassEntry) : Element := ⟨.ofClass c, c.annotations⟩

/-- The methods of a class, in the order of declaration. -/
def onMethods (c : ClassEntry) : List Element :=
  c.methods.map fun m => ⟨.method c.name m.name, m.annotations⟩

/-- The fields of a class, in the order of declaration. -/
def onFields (c : ClassEntry) : List Element :=
  c.fields.map fun f => ⟨.field c.name f.name, f.annotations⟩

/-- The methods and then the fields of a class. -/
def onMembers (c : ClassEntry) : List Element := c.onMethods ++ c.onFields

/-- One occurrence for every use of an annotation on a class and its members. -/
def uses (marker : String) (c : ClassEntry) : List Occurrence :=
  (c.itself :: c.onMembers).flatMap (Element.uses marker)

theorem uses_eq (marker : String) (c : ClassEntry) :
    c.uses marker = c.itself.uses marker ++ c.onMembers.flatMap (Element.uses marker) := rfl

end ClassEntry

namespace ClassTable

variable {classes listed : List ClassEntry} {marker : String} {c : ClassEntry}

/-! ### The classes that count -/

/-- The entries that count among those of a list, in name order. -/
structure Lists (classes listed : List ClassEntry) : Prop where
  increasing : (listed.map (·.name)).Pairwise (· < ·)
  mem_iff : ∀ c, c ∈ listed ↔ LastOfName classes c

theorem lists_values (classes : List ClassEntry) :
    Lists classes (ofList classes).classes.values where
  increasing := increasing_values_classes (keyed_ofList classes)
  mem_iff c := by
    rw [mem_values_classes (keyed_ofList classes), class?_ofList_iff, and_iff_right rfl]

/-! ### What is reported of a class -/

/-- The occurrences that are reported of a class: the first use on itself, and all on its
members. -/
def reportedUses (marker : String) (c : ClassEntry) : List Occurrence :=
  (c.itself.uses marker).take 1 ++ c.onMembers.flatMap (Element.uses marker)

theorem occurrencesOn_eq_append (marker : String) (c : ClassEntry) :
    occurrencesOn marker c =
      (c.annotation? marker).toList.map (fun a => Occurrence.ofAnnotation a (.ofClass c)) ++
        c.onMembers.flatMap (Element.uses marker) := by
  rw [occurrencesOn, ClassEntry.onMembers, List.flatMap_append, ClassEntry.onMethods,
    ClassEntry.onFields, List.flatMap_map, List.flatMap_map, List.append_assoc]
  rfl

theorem occurrencesOn_eq_reportedUses (marker : String) (c : ClassEntry) :
    occurrencesOn marker c = reportedUses marker c := by
  have hself : (c.annotation? marker).toList.map (fun a => Occurrence.ofAnnotation a (.ofClass c)) =
      (c.itself.uses marker).take 1 := by
    rw [ClassEntry.annotation?, ← List.head?_filter, Element.uses, ← List.map_take,
      ClassEntry.itself]
    cases c.annotations.filter fun a => a.name == marker <;> rfl
  rw [occurrencesOn_eq_append, hself, reportedUses]

theorem annotated_eq_flatMap (classes : List ClassEntry) (marker : String) :
    (ofList classes).annotated marker =
      (ofList classes).classes.values.flatMap (reportedUses marker) := by
  rw [annotated, funext (occurrencesOn_eq_reportedUses marker)]

theorem sublist_uses (marker : String) (c : ClassEntry) :
    (reportedUses marker c).Sublist (c.uses marker) :=
  (List.take_sublist 1 _).append (List.Sublist.refl _)

/-- Of a class every use is reported if it does not carry the annotation twice. -/
theorem reportedUses_eq_uses_iff :
    reportedUses marker c = c.uses marker ↔ (c.itself.uses marker).length ≤ 1 := by
  rw [reportedUses, ClassEntry.uses_eq, List.append_left_inj, List.take_eq_self_iff]

/-! ### What is reported of all classes -/

theorem flatMap_sublist_flatMap {l : List ClassEntry} {f g : ClassEntry → List Occurrence}
    (h : ∀ c, (f c).Sublist (g c)) : (l.flatMap f).Sublist (l.flatMap g) := by
  induction l with
  | nil => exact List.Sublist.refl _
  | cons c l ih =>
      rw [List.flatMap_cons, List.flatMap_cons]
      exact (h c).append ih

/-- Nothing is missing of the whole exactly if nothing is missing of any part. -/
theorem flatMap_eq_flatMap_iff {l : List ClassEntry} {f g : ClassEntry → List Occurrence}
    (h : ∀ c, (f c).Sublist (g c)) : l.flatMap f = l.flatMap g ↔ ∀ c ∈ l, f c = g c := by
  induction l with
  | nil => simp
  | cons c l ih =>
      rw [List.flatMap_cons, List.flatMap_cons, List.forall_mem_cons, ← ih]
      constructor
      · intro heq
        -- both parts are at most as long as what they are compared with, so both are as long
        have hfirst : (f c).length ≤ (g c).length := (h c).length_le
        have hrest : (l.flatMap f).length ≤ (l.flatMap g).length :=
          (flatMap_sublist_flatMap h).length_le
        have hlength := congrArg List.length heq
        rw [List.length_append, List.length_append] at hlength
        exact List.append_inj heq (by omega)
      · rintro ⟨hfirst, hrest⟩
        rw [hfirst, hrest]

/-- **When every use of an annotation is reported.**  Over the entries that count, in name order,
a table reports for each class the first use on the class itself and every use on its methods and
then on its fields, each use with its element and its value.  That is every use exactly if no class
carries the annotation more than once. -/
theorem annotated_eq_uses_iff (classes : List ClassEntry) (marker : String) :
    ∃ listed, Lists classes listed ∧
      (ofList classes).annotated marker = listed.flatMap (fun c =>
        (c.itself.uses marker).take 1 ++ c.onMembers.flatMap (Element.uses marker)) ∧
      ((ofList classes).annotated marker = listed.flatMap (ClassEntry.uses marker) ↔
        ∀ c ∈ listed, (c.itself.uses marker).length ≤ 1) := by
  refine ⟨_, lists_values classes, annotated_eq_flatMap classes marker, ?_⟩
  rw [annotated_eq_flatMap, flatMap_eq_flatMap_iff (sublist_uses marker)]
  simp only [reportedUses_eq_uses_iff]

/-! ### An annotation that is used twice -/

/-- A class with two paths, and with a method with two paths. -/
def twoPaths : ClassEntry where
  name := "Items"
  kind := .ordinary
  modifiers := []
  superName := none
  interfaces := []
  annotations := [⟨ pathAnnotation, some "/items"⟩, ⟨ pathAnnotation, some "/goods"⟩]
  methods := [⟨"list", [⟨ pathAnnotation, some "/all"⟩, ⟨ pathAnnotation, some "/list"⟩]⟩]
  fields := []

/-- **Not every use is reported.**  Both paths of the method are, but only the first path of the
class. -/
theorem not_annotated_eq_uses :
    Lists [twoPaths] [twoPaths] ∧
      ((ofList [twoPaths]).annotated pathAnnotation).map (·.value) =
        [some "/items", some "/all", some "/list"] ∧
      ([twoPaths].flatMap (ClassEntry.uses pathAnnotation)).map (·.value) =
        [some "/items", some "/goods", some "/all", some "/list"] ∧
      (ofList [twoPaths]).annotated pathAnnotation ≠
        [twoPaths].flatMap (ClassEntry.uses pathAnnotation) := by
  have hreported : ((ofList [twoPaths]).annotated pathAnnotation).map (·.value) =
      [some "/items", some "/all", some "/list"] := by decide
  have hused : ([twoPaths].flatMap (ClassEntry.uses pathAnnotation)).map (·.value) =
      [some "/items", some "/goods", some "/all", some "/list"] := by decide
  refine ⟨lists_values [twoPaths], hreported, hused, fun heq => ?_⟩
  rw [heq, hused] at hreported
  exact absurd hreported (by decide)

end ClassTable

end RestDeployment
