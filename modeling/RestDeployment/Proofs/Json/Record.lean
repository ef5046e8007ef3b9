import Mathlib.Data.List.Nodup
import RestDeployment.Json.Record

/-!
# Reading records that were written

Records are written as objects.  An object with distinct keys is read as a record
(`Record.of?_object`), and the readers of its fields look the members up.  They give back what
the writers of fields wrote, for lists and for optional values as for single ones
(`RoundTrips.list`, `RoundTrips.nullable`).
-/

namespace RestDeployment.Json

variable {α : Type} {write : α → Json} {read? : Json → Option α}

/-- Reading what was written gives the value back. -/
def RoundTrips (write : α → Json) (read? : Json → Option α) : Prop :=
  ∀ a, read? (write a) = some a

@[simp] theorem string?_string (text : String) : string? (.string text) = some text := rfl

@[simp] theorem bool?_bool (value : Bool) : bool? (.bool value) = some value := rfl

theorem RoundTrips.list (h : RoundTrips write read?) : RoundTrips (ofList write) (list? read?) := by
  intro as
  show (as.map write).mapM read? = some as
  induction as with
  | nil => rfl
  | cons a as ih =>
      rw [List.map_cons, List.mapM_cons, h a, ih]
      rfl

@[simp] theorem list?_ofStrings (texts : List String) :
    list? string? (ofStrings texts) = some texts :=
  RoundTrips.list string?_string texts

/-- Only `null` stands for no value. -/
theorem nullable?_of_ne_null {j : Json} {a : α} (hread : read? j = some a) (hnull : j ≠ .null) :
    nullable? read? j = some (some a) := by
  unfold nullable?
  split
  · exact absurd rfl hnull
  · rw [hread]
    rfl

theorem RoundTrips.nullable (h : RoundTrips write read?) (hnull : ∀ a, write a ≠ .null) :
    RoundTrips (ofOption write) (nullable? read?) := by
  intro o
  cases o with
  | none => rfl
  | some a => exact nullable?_of_ne_null (h a) (hnull a)

@[simp] theorem nullable?_string (text : String) :
    nullable? string? (.string text) = some (some text) := rfl

@[simp] theorem nullable?_ofOption_string (text : Option String) :
    nullable? string? (ofOption .string text) = some text :=
  RoundTrips.nullable string?_string (fun _ h => by cases h) text

@[simp] theorem member?_none (name : String) : member? name write none = [] := rfl

@[simp] theorem member?_some (name : String) (a : α) :
    member? name write (some a) = [(name, write a)] := rfl

namespace Record

variable {names : List String} {members : List (String × Json)} {name : String}

/-- An object with distinct keys is read as a record. -/
@[simp] theorem of?_object (h : (members.map Prod.fst).Nodup) :
    of? names (.object members) = some ⟨ofMember members⟩ := by
  have honce : ∀ name, members.countP (fun member => member.1 == name) ≤ 1 := by
    intro name
    calc members.countP (fun member => member.1 == name)
        = (members.map Prod.fst).count name := by
          rw [List.count, List.countP_map]
          rfl
      _ ≤ 1 := List.nodup_iff_count_le_one.mp h name
  have hall : (names.all fun name =>
      decide (members.countP (fun member => member.1 == name) ≤ 1)) = true :=
    List.all_eq_true.mpr fun name _ => decide_eq_true (honce name)
  simp only [of?, hall, if_true]

@[simp] theorem lookup_cons_of_ne {key : String} {value : Json} (h : name ≠ key) :
    ((key, value) :: members).lookup name = members.lookup name := by
  have hne : (name == key) = false := beq_eq_false_iff_ne.mpr h
  rw [List.lookup_cons, hne]

/-! The readers of fields look members up. -/

@[simp] theorem required_ofMember :
    required ⟨ofMember members⟩ name read? = (members.lookup name).bind read? := by
  simp only [required, ofMember]
  cases members.lookup name <;> rfl

@[simp] theorem optional_ofMember : optional ⟨ofMember members⟩ name read? =
    (members.lookup name).elim (some none) (nullable? read?) := by
  simp only [optional, ofMember]
  cases members.lookup name <;> rfl

@[simp] theorem nullable_ofMember : nullable ⟨ofMember members⟩ name read? =
    (members.lookup name).elim (some none) (nullable? read?) := by
  simp only [nullable, ofMember]
  cases members.lookup name <;> rfl

@[simp] theorem withDefault_ofMember {default : α} :
    withDefault ⟨ofMember members⟩ name read? default =
      (members.lookup name).elim (some default) read? := by
  simp only [withDefault, ofMember]
  cases members.lookup name <;> rfl

@[simp] theorem listField_ofMember : listField ⟨ofMember members⟩ name read? =
    (members.lookup name).elim (some []) (list? read?) :=
  withDefault_ofMember

end Record

end RestDeployment.Json
