/-
  EntityQuery.Proofs.Text.LetterCase — letters and digits of ASCII by their code points.

  Each kind of ASCII character is a range of code points (`isUpper_iff_toNat`, `isLower_iff_toNat`,
  `isDigit_iff_toNat`), and the small form of a capital is 32 above it (`toNat_toLower`). So the
  small form of a capital is a small letter (`isLower_toLower`), and any other character is its
  own (`toLower_of_not_isUpper`).

  Large and small characters of every script are told apart by tables, which begin after ASCII
  (`isLarge_eq_isUpper`, `isSmall_eq_isLower`).
-/
import EntityQuery.Text.LetterCase

namespace EntityQuery.Text.LetterCase

variable {c : Char}

theorem isUpper_iff_toNat : c.isUpper = true ↔ 65 ≤ c.toNat ∧ c.toNat ≤ 90 := decide_eq_true_iff

theorem isLower_iff_toNat : c.isLower = true ↔ 97 ≤ c.toNat ∧ c.toNat ≤ 122 := by
  show (decide (c.val ≥ 'a'.val) && decide (c.val ≤ 'z'.val)) = true ↔ _
  rw [Bool.and_eq_true, decide_eq_true_iff, decide_eq_true_iff]
  rfl

theorem isDigit_iff_toNat : c.isDigit = true ↔ 48 ≤ c.toNat ∧ c.toNat ≤ 57 := Char.isDigit_iff_toNat

theorem isAlphanum_eq (c : Char) : c.isAlphanum = (c.isUpper || c.isLower || c.isDigit) := rfl

theorem isLower_eq_false (h : c.isUpper = true) : c.isLower = false := by
  have hc := isUpper_iff_toNat.mp h
  rw [← Bool.not_eq_true, isLower_iff_toNat]
  omega

/-! ## Small forms -/

theorem toNat_toLower (c : Char) :
    c.toLower.toNat = if 65 ≤ c.toNat ∧ c.toNat ≤ 90 then c.toNat + 32 else c.toNat := by
  have hlarge : (c.val ≥ 'A'.val ∧ c.val ≤ 'Z'.val) ↔ 65 ≤ c.toNat ∧ c.toNat ≤ 90 := Iff.rfl
  unfold Char.toLower
  split
  · rename_i h
    have hsum : (c.val + 32).toNat = (c.toNat + 32) % 2 ^ 32 := UInt32.toNat_add _ _
    have hle := (hlarge.mp h).2
    rw [if_pos (hlarge.mp h)]
    show (c.val + 32).toNat = c.toNat + 32
    omega
  · rename_i h
    rw [if_neg fun hc => h (hlarge.mpr hc)]

theorem isLower_toLower (h : c.isUpper = true) : c.toLower.isLower = true := by
  have hc := isUpper_iff_toNat.mp h
  rw [isLower_iff_toNat, toNat_toLower, if_pos hc]
  omega

theorem toLower_of_not_isUpper (h : ¬c.isUpper = true) : c.toLower = c := by
  rw [← Char.toNat_inj, toNat_toLower, if_neg fun hc => h (isUpper_iff_toNat.mpr hc)]

/-- Which characters have a given small letter as their small form. -/
theorem toLower_eq_iff {small large : Char} (hlow : 65 ≤ large.toNat) (hhigh : large.toNat ≤ 90)
    (hs : small.toNat = large.toNat + 32) : c.toLower = small ↔ c = small ∨ c = large := by
  rw [← Char.toNat_inj, ← Char.toNat_inj, ← Char.toNat_inj, toNat_toLower]
  split
  · omega
  · omega

/-! ## Large and small characters -/

theorem isLarge_eq_isUpper (h : c.toNat < 128) : isLarge c = c.isUpper := by
  rw [isLarge, if_pos h]
  exact (Bool.decide_and _ _).symm

theorem isSmall_eq_isLower (h : c.toNat < 128) : isSmall c = c.isLower := if_pos h

end EntityQuery.Text.LetterCase
