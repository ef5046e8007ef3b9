import RestDeployment.Proofs.ScanPolicy.Rearrangement

/-!
# When a scan policy can be resolved

Reading the assignments to scan flags fails only at a value that is neither true nor
false.  `isOk_ofDescriptor_iff` says so of the context parameters of a descriptor; boot
classes and complete metadata make no difference.
-/

namespace RestDeployment

namespace ScanFlag

/-- A text that stands for a value of a flag. -/
def Readable (text : String) : Prop :=
  text.map Char.toLower = "true" ∨ text.map Char.toLower = "false"

theorem isSome_valueOf?_iff (text : String) : (valueOf? text).isSome = true ↔ Readable text := by
  unfold valueOf? Readable
  split
  · next h => simp [h]
  · next h => simp [h]
  · next htrue hfalse => exact iff_of_false Bool.false_ne_true (not_or.mpr ⟨htrue, hfalse⟩)

/-- An assignment that can be read: it is to something else than a flag, or it has a value
that stands for true or false. -/
def Assignable (name : String) (value : Option String) : Prop :=
  (ofName? name).isSome = true → ∃ text, value = some text ∧ Readable text

theorem exists_readable_iff (value : Option String) :
    (∃ text, value = some text ∧ Readable text) ↔ ∃ b, StandsFor value b := by
  simp only [← isSome_valueOf?_iff, ← bind_valueOf?_eq_some_iff, Option.bind_eq_some_iff,
    Option.isSome_iff_exists]
  rw [exists_comm]
  simp only [exists_and_left]

theorem assignable_iff (a : String × Option String) : Assignable a.1 a.2 ↔ ¬ Unreadable a := by
  rw [Assignable, exists_readable_iff, Option.isSome_iff_exists, Unreadable, ← not_exists,
    not_and_not_right]
  simp only [ofName?_eq_some_iff]

end ScanFlag

namespace ScanPolicy

variable {web : WebDescriptor} {hasBootClasses : Bool} {p : ScanPolicy} {fault : Fault}

/-- A descriptor settles a policy exactly if every flag among its context parameters has a
value that stands for true or false. -/
theorem isOk_ofDescriptor_iff (web : WebDescriptor) (hasBootClasses : Bool) :
    (∃ p, ofDescriptor web hasBootClasses = .ok p) ↔
      ∀ p ∈ web.contextParams, ScanFlag.Assignable p.name p.value := by
  have hassignable : (∀ p ∈ web.contextParams, ScanFlag.Assignable p.name p.value) ↔
      ∀ a ∈ web.contextParams.map fun p => (p.name, p.value), ¬ ScanFlag.Unreadable a := by
    rw [List.forall_mem_map]
    exact forall₂_congr fun p _ => ScanFlag.assignable_iff (p.name, p.value)
  rw [hassignable]
  exact ⟨fun ⟨p, hp⟩ => (resolve_eq_ok_iff.mp hp).1, exists_resolve_of_readable⟩

theorem exists_of_ofDescriptor_eq_error (h : ofDescriptor web hasBootClasses = .error fault) :
    ∃ name value, fault = .invalidValue name value := by
  obtain ⟨a, -, hfault⟩ := resolve_eq_error_iff.mp h
  exact ⟨a.1, a.2, hfault⟩

theorem hasBootClasses_of_ofDescriptor (h : ofDescriptor web hasBootClasses = .ok p) :
    p.hasBootClasses = hasBootClasses :=
  (resolve_eq_ok_iff.mp h).2.boot

end ScanPolicy

end RestDeployment
