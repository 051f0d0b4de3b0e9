import CardCensus.Text.Fold
import Mathlib.Data.String.Basic

/-!
# The case of ASCII letters

Folding moves the capitals of ASCII by 32 places and keeps every other character. Neither the kind
of a character nor its size changes.

Results:
* `toNat_toLower`: folding one character, in numbers.
* `toLower_eq_iff`: folding makes no letter of another character, and no other character of a
  letter.
* `utf8ByteSize_eq_of_fold_eq`: texts that differ in case only have one size.
-/

namespace CardCensus.Text

theorem toNat_toLower (c : Char) :
    c.toLower.toNat = if 65 ≤ c.toNat ∧ c.toNat ≤ 90 then c.toNat + 32 else c.toNat := by
  unfold Char.toLower
  by_cases h : c.val ≥ 'A'.val ∧ c.val ≤ 'Z'.val
  · have hge : 65 ≤ c.val.toNat := UInt32.le_iff_toNat_le.mp h.1
    have hle : c.val.toNat ≤ 90 := UInt32.le_iff_toNat_le.mp h.2
    rw [dif_pos h, if_pos ⟨hge, hle⟩]
    show (c.val + 32).toNat = c.val.toNat + 32
    rw [UInt32.toNat_add]
    apply Nat.mod_eq_of_lt
    show c.val.toNat + 32 < 2 ^ 32
    omega
  · have hnot : ¬ (65 ≤ c.toNat ∧ c.toNat ≤ 90) := fun hn =>
      h ⟨UInt32.le_iff_toNat_le.mpr hn.1, UInt32.le_iff_toNat_le.mpr hn.2⟩
    rw [dif_neg h, if_neg hnot]

theorem isUpper_iff {c : Char} : c.isUpper = true ↔ 65 ≤ c.toNat ∧ c.toNat ≤ 90 := by
  show decide (c.val ≥ 'A'.val ∧ c.val ≤ 'Z'.val) = true ↔ _
  rw [decide_eq_true_eq]
  exact and_congr UInt32.le_iff_toNat_le UInt32.le_iff_toNat_le

theorem isLower_iff {c : Char} : c.isLower = true ↔ 97 ≤ c.toNat ∧ c.toNat ≤ 122 := by
  show (decide (c.val ≥ 'a'.val) && decide (c.val ≤ 'z'.val)) = true ↔ _
  rw [Bool.and_eq_true, decide_eq_true_eq, decide_eq_true_eq]
  exact and_congr UInt32.le_iff_toNat_le UInt32.le_iff_toNat_le

theorem isAlpha_iff {c : Char} :
    c.isAlpha = true ↔ (65 ≤ c.toNat ∧ c.toNat ≤ 90) ∨ (97 ≤ c.toNat ∧ c.toNat ≤ 122) := by
  show (c.isUpper || c.isLower) = true ↔ _
  rw [Bool.or_eq_true, isUpper_iff, isLower_iff]

theorem isDigit_iff {c : Char} : c.isDigit = true ↔ 48 ≤ c.toNat ∧ c.toNat ≤ 57 := by
  show (decide (c.val ≥ '0'.val) && decide (c.val ≤ '9'.val)) = true ↔ _
  rw [Bool.and_eq_true, decide_eq_true_eq, decide_eq_true_eq]
  exact and_congr UInt32.le_iff_toNat_le UInt32.le_iff_toNat_le

theorem isAlpha_toLower (c : Char) : c.toLower.isAlpha = c.isAlpha := by
  rw [Bool.eq_iff_iff, isAlpha_iff, isAlpha_iff, toNat_toLower]
  split <;> omega

theorem isDigit_toLower (c : Char) : c.toLower.isDigit = c.isDigit := by
  rw [Bool.eq_iff_iff, isDigit_iff, isDigit_iff, toNat_toLower]
  split <;> omega

/-- A character that is no letter has only itself as a lower case. -/
theorem toLower_eq_iff {c d : Char} (h : d.toNat < 97 ∨ 122 < d.toNat)
    (h' : d.toNat < 65 ∨ 90 < d.toNat) :
    c.toLower = d ↔ c = d := by
  rw [← Char.toNat_inj, ← Char.toNat_inj, toNat_toLower]
  split <;> omega

theorem utf8Size_eq (c : Char) : c.utf8Size =
    if c.toNat ≤ 127 then 1 else if c.toNat ≤ 2047 then 2 else if c.toNat ≤ 65535 then 3
      else 4 := by
  simp only [Char.utf8Size, UInt32.le_iff_toNat_le]
  rfl

theorem utf8Size_toLower (c : Char) : c.toLower.utf8Size = c.utf8Size := by
  rw [utf8Size_eq, utf8Size_eq, toNat_toLower]
  by_cases h : 65 ≤ c.toNat ∧ c.toNat ≤ 90
  · rw [if_pos h, if_pos (by omega), if_pos (by omega)]
  · rw [if_neg h]

theorem utf8Len_fold (s : List Char) : String.utf8Len (fold s) = String.utf8Len s := by
  induction s with
  | nil => rfl
  | cons c rest ih =>
    show String.utf8Len (fold rest) + c.toLower.utf8Size = String.utf8Len rest + c.utf8Size
    rw [ih, utf8Size_toLower]

theorem utf8ByteSize_eq_of_fold_eq {a b : String} (h : fold a.toList = fold b.toList) :
    a.utf8ByteSize = b.utf8ByteSize := by
  calc a.utf8ByteSize
      = String.utf8Len a.toList := by rw [← String.utf8ByteSize_ofList, String.ofList_toList]
    _ = String.utf8Len b.toList := by rw [← utf8Len_fold, h, utf8Len_fold]
    _ = b.utf8ByteSize := by rw [← String.utf8ByteSize_ofList, String.ofList_toList]

end CardCensus.Text
