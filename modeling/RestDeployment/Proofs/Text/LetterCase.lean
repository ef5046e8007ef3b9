import Mathlib.Data.List.Forall2

/-!
# Words in any letter case

A text is a word in any letter case if it has the letters of the word one after the other, each
as a small or as a capital letter (`InAnyCase`).  For a word in small letters that is the same as
being that word when all capital letters of ASCII are made small (`map_toLower_eq_iff`); letters
outside of ASCII stay as they are and stand for no letter of the word.
-/

namespace RestDeployment.Text

/-- A text is a word with each letter as it is or as a capital letter. -/
def InAnyCase (word text : String) : Prop :=
  List.Forall₂ (fun c w => c = w ∨ c = w.toUpper) text.toList word.toList

/-! ### Single letters -/

theorem toNat_toLower (c : Char) :
    c.toLower.toNat = if 65 ≤ c.toNat ∧ c.toNat ≤ 90 then c.toNat + 32 else c.toNat := by
  have hcapital : c.val ≥ 'A'.val ∧ c.val ≤ 'Z'.val ↔ 65 ≤ c.toNat ∧ c.toNat ≤ 90 := by
    simp only [ge_iff_le, UInt32.le_iff_toNat_le]
    rfl
  by_cases hc : 65 ≤ c.toNat ∧ c.toNat ≤ 90
  · have hsum : c.toLower.toNat = (c.toNat + 32) % 2 ^ 32 := by
      delta Char.toLower
      rw [dif_pos (hcapital.mpr hc)]
      exact UInt32.toNat_add _ _
    rw [if_pos hc, hsum]
    omega
  · delta Char.toLower
    rw [if_neg hc, dif_neg (hc ∘ hcapital.mp)]

theorem toNat_toUpper {w : Char} (hsmall : 97 ≤ w.toNat ∧ w.toNat ≤ 122) :
    w.toUpper.toNat + 32 = w.toNat := by
  have hrange : w.val ≥ 'a'.val ∧ w.val ≤ 'z'.val := by
    simp only [ge_iff_le, UInt32.le_iff_toNat_le]
    exact hsmall
  -- 32 is taken away by adding its complement
  have hsum : w.toUpper.toNat = (w.toNat + (2 ^ 32 - 32)) % 2 ^ 32 := by
    delta Char.toUpper
    rw [dif_pos hrange]
    exact UInt32.toNat_add _ _
  omega

theorem toLower_eq_iff {c w : Char} (hsmall : 97 ≤ w.toNat ∧ w.toNat ≤ 122) :
    c.toLower = w ↔ c = w ∨ c = w.toUpper := by
  have hcapital := toNat_toUpper hsmall
  simp only [← Char.toNat_inj, toNat_toLower]
  split
  · omega
  · omega

/-! ### Words -/

/-- A word in small letters is what a text comes to whose capital letters are made small, exactly
if the text is that word in any letter case. -/
theorem map_toLower_eq_iff {word text : String}
    (hsmall : ∀ w ∈ word.toList, 97 ≤ w.toNat ∧ w.toNat ≤ 122) :
    text.map Char.toLower = word ↔ InAnyCase word text := by
  rw [← String.toList_inj, String.toList_map, InAnyCase]
  generalize text.toList = letters, word.toList = small at hsmall ⊢
  induction letters generalizing small with
  | nil => cases small <;> simp
  | cons c letters ih =>
      cases small with
      | nil => simp
      | cons w small =>
          rw [List.forall_mem_cons] at hsmall
          rw [List.map_cons, List.cons.injEq, List.forall₂_cons, toLower_eq_iff hsmall.1,
            ih small hsmall.2]

end RestDeployment.Text
