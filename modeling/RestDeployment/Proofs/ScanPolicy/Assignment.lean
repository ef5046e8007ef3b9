import Mathlib.Tactic.Tauto
import RestDeployment.Proofs.Text.LetterCase
import RestDeployment.ScanPolicy.Resolve

/-!
# Assignments to scan flags

A list of assignments is read from the front.  What is not to a flag is passed over, and reading
stops at the first assignment to a flag whose value stands for neither true nor false
(`assignments_eq_error_iff`).  Where all can be read, what is kept in mind for a flag is the value
of the last assignment to it, under either of its two names (`lastAssigned_eq_some_iff`).
-/

namespace RestDeployment

namespace ScanFlag

variable {flag : ScanFlag} {name text : String} {value : Option String} {b : Bool} {fault : Fault}
  {a : String × Option String} {assigned before after : List (String × Option String)}
  {values : List (ScanFlag × Bool)}

/-! ### Names and values -/

/-- The names of a flag: a short one and that of a context parameter. -/
def names : ScanFlag → List String
  | .all => ["scan-all", "jaxrs.scan"]
  | .providers => ["scan-providers", "jaxrs.scan.providers"]
  | .resources => ["scan-resources", "jaxrs.scan.resources"]

theorem ofName?_eq_some_iff : ofName? name = some flag ↔ name ∈ flag.names := by
  unfold ofName?
  split <;> cases flag <;> simp_all [names]

theorem ofName?_eq_none_iff : ofName? name = none ↔ ∀ flag : ScanFlag, name ∉ flag.names := by
  rw [Option.eq_none_iff_forall_ne_some]
  exact forall_congr' fun flag => not_congr ofName?_eq_some_iff

/-- The word for a value of a flag. -/
def word : Bool → String
  | true => "true"
  | false => "false"

/-- A value is set and is the word for this one, in any letter case. -/
def StandsFor (value : Option String) (b : Bool) : Prop :=
  ∃ text, value = some text ∧ Text.InAnyCase (word b) text

theorem valueOf?_eq_some_iff : valueOf? text = some b ↔ Text.InAnyCase (word b) text := by
  have hsmall : ∀ w ∈ (word b).toList, 97 ≤ w.toNat ∧ w.toNat ≤ 122 := by
    cases b <;> simp [word]
  rw [← Text.map_toLower_eq_iff hsmall]
  unfold valueOf?
  split <;> cases b <;> simp_all [word]

theorem bind_valueOf?_eq_some_iff : value.bind valueOf? = some b ↔ StandsFor value b := by
  simp only [Option.bind_eq_some_iff, valueOf?_eq_some_iff, StandsFor]

/-- A value stands for one thing. -/
theorem StandsFor.unique {b' : Bool} (h : StandsFor value b) (h' : StandsFor value b') :
    b = b' := by
  rw [← bind_valueOf?_eq_some_iff] at h h'
  exact Option.some.inj (h.symm.trans h')

/-- An assignment to a flag of a value that stands for neither true nor false. -/
def Unreadable (a : String × Option String) : Prop :=
  (∃ flag : ScanFlag, a.1 ∈ flag.names) ∧ ∀ b, ¬ StandsFor a.2 b

theorem exists_standsFor (hreadable : ¬ Unreadable a) (hflag : a.1 ∈ flag.names) :
    ∃ b, StandsFor a.2 b := by
  by_contra hnone
  exact hreadable ⟨⟨flag, hflag⟩, not_exists.mp hnone⟩

theorem parse_of_standsFor (h : StandsFor value b) : parse name value = .ok b := by
  rw [parse, bind_valueOf?_eq_some_iff.mpr h]

theorem parse_of_not_standsFor (h : ∀ b, ¬ StandsFor value b) :
    parse name value = .error (.invalidValue name value) := by
  have hnone : value.bind valueOf? = none := by
    rw [Option.eq_none_iff_forall_ne_some]
    exact fun b hb => h b (bind_valueOf?_eq_some_iff.mp hb)
  rw [parse, hnone]

/-! ### The first assignment that cannot be read -/

/-- An assignment that cannot be read, the first one in the list. -/
def FirstUnreadable (assigned : List (String × Option String)) (a : String × Option String) :
    Prop :=
  ∃ before after, assigned = before ++ a :: after ∧ Unreadable a ∧ ∀ a' ∈ before, ¬ Unreadable a'

/-- What becomes of the first assignment in a list: it is passed over, it is the one at which
reading stops, or its value goes before the others. -/
theorem assignments_cons (a : String × Option String) (assigned : List (String × Option String)) :
    ((∀ flag : ScanFlag, a.1 ∉ flag.names) ∧
        assignments (a :: assigned) = assignments assigned) ∨
      (Unreadable a ∧ assignments (a :: assigned) = .error (.invalidValue a.1 a.2)) ∨
      ∃ flag : ScanFlag, ∃ b, a.1 ∈ flag.names ∧ StandsFor a.2 b ∧
        assignments (a :: assigned) = (assignments assigned).map ((flag, b) :: ·) := by
  obtain ⟨name, value⟩ := a
  cases hflag : ofName? name with
  | none =>
      refine .inl ⟨ofName?_eq_none_iff.mp hflag, ?_⟩
      rw [assignments, hflag]
  | some flag =>
      have hname : name ∈ flag.names := ofName?_eq_some_iff.mp hflag
      by_cases hreadable : ∃ b, StandsFor value b
      · obtain ⟨b, hb⟩ := hreadable
        refine .inr (.inr ⟨flag, b, hname, hb, ?_⟩)
        simp only [assignments, hflag, parse_of_standsFor hb]
        cases assignments assigned with
        | error fault => rfl
        | ok values => rfl
      · have hnone : ∀ b, ¬ StandsFor value b := not_exists.mp hreadable
        refine .inr (.inl ⟨⟨⟨flag, hname⟩, hnone⟩, ?_⟩)
        simp only [assignments, hflag, parse_of_not_standsFor hnone]
        rfl

theorem not_unreadable_of_no_flag (h : ∀ flag : ScanFlag, a.1 ∉ flag.names) : ¬ Unreadable a :=
  fun ⟨⟨flag, hflag⟩, _⟩ => h flag hflag

theorem not_unreadable_of_standsFor (h : StandsFor a.2 b) : ¬ Unreadable a := fun hbad => hbad.2 b h

theorem firstUnreadable_cons {x : String × Option String} :
    FirstUnreadable (a :: assigned) x ↔
      Unreadable a ∧ x = a ∨ ¬ Unreadable a ∧ FirstUnreadable assigned x := by
  constructor
  · rintro ⟨before, after, hsplit, hbad, hbefore⟩
    cases before with
    | nil =>
        obtain ⟨rfl, -⟩ := List.cons.inj hsplit
        exact .inl ⟨hbad, rfl⟩
    | cons a' before =>
        obtain ⟨rfl, hrest⟩ := List.cons.inj hsplit
        rw [List.forall_mem_cons] at hbefore
        exact .inr ⟨hbefore.1, before, after, hrest, hbad, hbefore.2⟩
  · rintro (⟨hbad, rfl⟩ | ⟨hgood, before, after, rfl, hbad, hbefore⟩)
    · exact ⟨[], assigned, rfl, hbad, fun _ hmem => absurd hmem List.not_mem_nil⟩
    · exact ⟨a :: before, after, rfl, hbad, List.forall_mem_cons.mpr ⟨hgood, hbefore⟩⟩

/-- Reading fails exactly at the first assignment that cannot be read. -/
theorem assignments_eq_error_iff :
    assignments assigned = .error fault ↔
      ∃ a, FirstUnreadable assigned a ∧ fault = .invalidValue a.1 a.2 := by
  induction assigned with
  | nil =>
      refine iff_of_false (by simp [assignments]) ?_
      rintro ⟨a, ⟨before, after, hsplit, -⟩, -⟩
      simp at hsplit
  | cons a assigned ih =>
      simp only [firstUnreadable_cons]
      rcases assignments_cons a assigned with ⟨hno, hrest⟩ | ⟨hbad, hfail⟩ | ⟨flag, b, -, hb, hrest⟩
      · have hgood := not_unreadable_of_no_flag hno
        simp only [hrest, ih, hgood, false_and, false_or, not_false_eq_true, true_and]
      · rw [hfail, Except.error.injEq]
        simp only [hbad, not_true_eq_false, false_and, or_false, true_and, exists_eq_left]
        exact eq_comm
      · have hgood := not_unreadable_of_standsFor hb
        simp only [hgood, false_and, false_or, not_false_eq_true, true_and, ← ih, hrest]
        cases assignments assigned with
        | error fault' => simp [Except.map]
        | ok values => simp [Except.map]

theorem exists_firstUnreadable_iff :
    (∃ a, FirstUnreadable assigned a) ↔ ∃ a ∈ assigned, Unreadable a := by
  induction assigned with
  | nil => simp [FirstUnreadable]
  | cons a assigned ih =>
      simp only [List.mem_cons, exists_eq_or_imp, firstUnreadable_cons]
      rw [← ih]
      by_cases hbad : Unreadable a
      · simp only [hbad, true_and, not_true_eq_false, false_and, or_false, exists_eq, true_or]
      · simp only [hbad, false_and, not_false_eq_true, true_and, false_or]

/-! ### The last assignment to a flag -/

/-- The value of the last assignment to a flag, under either of its names. -/
def LastValue (assigned : List (String × Option String)) (flag : ScanFlag) (b : Bool) : Prop :=
  ∃ before a after, assigned = before ++ a :: after ∧ a.1 ∈ flag.names ∧ StandsFor a.2 b ∧
    ∀ a' ∈ after, a'.1 ∉ flag.names

/-- No assignment is to this flag. -/
def Unassigned (assigned : List (String × Option String)) (flag : ScanFlag) : Prop :=
  ∀ a ∈ assigned, a.1 ∉ flag.names

instance : Decidable (Unassigned assigned flag) :=
  inferInstanceAs (Decidable (∀ a ∈ assigned, a.1 ∉ flag.names))

theorem unassigned_cons :
    Unassigned (a :: assigned) flag ↔ a.1 ∉ flag.names ∧ Unassigned assigned flag :=
  List.forall_mem_cons

theorem lastValue_cons :
    LastValue (a :: assigned) flag b ↔ LastValue assigned flag b ∨
      Unassigned assigned flag ∧ a.1 ∈ flag.names ∧ StandsFor a.2 b := by
  constructor
  · rintro ⟨before, a', after, hsplit, hflag, hb, hafter⟩
    cases before with
    | nil =>
        obtain ⟨rfl, rfl⟩ := List.cons.inj hsplit
        exact .inr ⟨hafter, hflag, hb⟩
    | cons _ before =>
        obtain ⟨rfl, hrest⟩ := List.cons.inj hsplit
        exact .inl ⟨before, a', after, hrest, hflag, hb, hafter⟩
  · rintro (⟨before, a', after, rfl, hflag, hb, hafter⟩ | ⟨hafter, hflag, hb⟩)
    · exact ⟨a :: before, a', after, rfl, hflag, hb, hafter⟩
    · exact ⟨[], a, assigned, rfl, hflag, hb, hafter⟩

theorem unassigned_append :
    Unassigned (before ++ after) flag ↔ Unassigned before flag ∧ Unassigned after flag :=
  List.forall_mem_append

/-- A later list of assignments goes before an earlier one. -/
theorem lastValue_append :
    LastValue (before ++ after) flag b ↔
      LastValue after flag b ∨ Unassigned after flag ∧ LastValue before flag b := by
  induction before with
  | nil => simp [LastValue]
  | cons a before ih =>
      rw [List.cons_append, lastValue_cons, lastValue_cons, ih, unassigned_append]
      tauto

theorem unassigned_filter :
    Unassigned (assigned.filter (·.1 ∈ flag.names)) flag ↔ Unassigned assigned flag := by
  simp only [Unassigned, List.mem_filter, decide_eq_true_eq, and_imp]
  exact forall₂_congr fun a _ => ⟨fun h hflag => h hflag hflag, fun h _ => h⟩

/-- Only the assignments to a flag count for it. -/
theorem lastValue_filter :
    LastValue (assigned.filter (·.1 ∈ flag.names)) flag b ↔ LastValue assigned flag b := by
  induction assigned with
  | nil => rfl
  | cons a assigned ih =>
      rw [lastValue_cons, List.filter_cons]
      by_cases hflag : a.1 ∈ flag.names
      · rw [if_pos (decide_eq_true hflag), lastValue_cons, ih, unassigned_filter]
      · rw [if_neg (by simpa using hflag), ih]
        exact (or_iff_left fun hlast => hflag hlast.2.1).symm

theorem lastAssigned_cons (v : ScanFlag × Bool) (values : List (ScanFlag × Bool)) :
    lastAssigned flag (v :: values) =
      (lastAssigned flag values).or (if v.1 = flag then some v.2 else none) := by
  unfold lastAssigned
  rw [List.filter_cons]
  by_cases hv : v.1 = flag
  · rw [if_pos (beq_iff_eq.mpr hv), List.map_cons, List.getLast?_cons, if_pos hv]
    cases (List.map Prod.snd (values.filter fun v => v.1 == flag)).getLast? <;> rfl
  · rw [if_neg (fun h => hv (beq_iff_eq.mp h)), if_neg hv, Option.or_none]

/-- A name belongs to one flag only. -/
theorem mem_names_iff {flag' : ScanFlag} (h : name ∈ flag'.names) :
    name ∈ flag.names ↔ flag' = flag := by
  rw [← ofName?_eq_some_iff] at h ⊢
  rw [h, Option.some.injEq]

theorem exists_of_map_cons_eq_ok {v : ScanFlag × Bool}
    (h : (assignments assigned).map (v :: ·) = .ok values) :
    ∃ rest, assignments assigned = .ok rest ∧ values = v :: rest := by
  cases hrest : assignments assigned with
  | error fault =>
      rw [hrest] at h
      cases h
  | ok rest =>
      rw [hrest] at h
      cases h
      exact ⟨rest, rfl, rfl⟩

theorem lastAssigned_eq_none_iff (h : assignments assigned = .ok values) :
    lastAssigned flag values = none ↔ Unassigned assigned flag := by
  induction assigned generalizing values with
  | nil =>
      cases h
      exact iff_of_true rfl fun _ ha => absurd ha List.not_mem_nil
  | cons a assigned ih =>
      rw [unassigned_cons]
      rcases assignments_cons a assigned with
        ⟨hno, hrest⟩ | ⟨-, hfail⟩ | ⟨flag', b', hflag', -, hrest⟩
      · rw [ih (hrest ▸ h), and_iff_right (hno flag)]
      · rw [hfail] at h
        cases h
      · rw [hrest] at h
        obtain ⟨rest, hok, rfl⟩ := exists_of_map_cons_eq_ok h
        rw [lastAssigned_cons, Option.or_eq_none_iff, ih hok, mem_names_iff hflag', and_comm]
        by_cases hsame : flag' = flag
        · simp [hsame]
        · simp [hsame]

theorem lastAssigned_eq_some_iff (h : assignments assigned = .ok values) :
    lastAssigned flag values = some b ↔ LastValue assigned flag b := by
  induction assigned generalizing values with
  | nil =>
      cases h
      refine iff_of_false (by simp [lastAssigned]) ?_
      rintro ⟨before, a, after, hsplit, -⟩
      simp at hsplit
  | cons a assigned ih =>
      rw [lastValue_cons]
      rcases assignments_cons a assigned with
        ⟨hno, hrest⟩ | ⟨-, hfail⟩ | ⟨flag', b', hflag', hb', hrest⟩
      · rw [ih (hrest ▸ h)]
        exact (or_iff_left fun hlast => hno flag hlast.2.1).symm
      · rw [hfail] at h
        cases h
      · rw [hrest] at h
        obtain ⟨rest, hok, rfl⟩ := exists_of_map_cons_eq_ok h
        rw [lastAssigned_cons, Option.or_eq_some_iff, ih hok, lastAssigned_eq_none_iff hok,
          mem_names_iff hflag']
        by_cases hsame : flag' = flag
        · have hvalue : b' = b ↔ StandsFor a.2 b :=
            ⟨fun heq => heq ▸ hb', fun hb => hb'.unique hb⟩
          simp [hsame, hvalue]
        · simp [hsame]

/-- In a list that can be read each flag has a last value or no assignment. -/
theorem exists_lastValue_or_unassigned (hreadable : ∀ a ∈ assigned, ¬ Unreadable a)
    (flag : ScanFlag) : (∃ b, LastValue assigned flag b) ∨ Unassigned assigned flag := by
  cases hread : assignments assigned with
  | error fault =>
      obtain ⟨a, hfirst, -⟩ := assignments_eq_error_iff.mp hread
      obtain ⟨a, ha, hbad⟩ := exists_firstUnreadable_iff.mp ⟨a, hfirst⟩
      exact absurd hbad (hreadable a ha)
  | ok values =>
      cases hlast : lastAssigned flag values with
      | none => exact .inr ((lastAssigned_eq_none_iff hread).mp hlast)
      | some b => exact .inl ⟨b, (lastAssigned_eq_some_iff hread).mp hlast⟩

end ScanFlag

end RestDeployment
