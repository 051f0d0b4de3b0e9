import CardCensus.Proofs.Text.Comparison
import CardCensus.Text.Upper

/-!
# What upper case keeps

The upper case of a text holds a character with number zero only where the text does. Letters and
digits of ASCII stay the same up to their case.

Results:
* `nulFree_uppercased`: a text without such a character has none in upper case.
* `fold_uppercased`: a text of letters and digits of ASCII is its own upper case, up to case.
-/

namespace CardCensus.Text

theorem toUpper_ne_nul {c : Char} (h : c ≠ '\x00') (hascii : c.toNat < 0x80) :
    c.toUpper ≠ '\x00' := by
  have hall : ∀ n : Fin 0x80, Char.ofNat n ≠ '\x00' → (Char.ofNat n).toUpper ≠ '\x00' := by decide
  have hc := hall ⟨c.toNat, hascii⟩
  rw [Char.ofNat_toNat] at hc
  exact hc h

theorem ofNat_ne_nul {n : Nat} (h : n ≠ 0) (hvalid : n.isValidChar) : Char.ofNat n ≠ '\x00' := by
  intro hnul
  have hnumber : (Char.ofNat n).toNat = n := by
    rw [Char.ofNat, dif_pos hvalid]
    rfl
  rw [hnul] at hnumber
  exact h hnumber.symm

/-- The images of a run are characters, and none has number zero. -/
def CaseRun.IsProper (run : CaseRun) : Prop :=
  1 ≤ run.first + run.shift ∧
    (run.last + run.shift < 0xD800 ∨ 0xDFFF < run.first + run.shift ∧
      run.last + run.shift < 0x110000)

instance (run : CaseRun) : Decidable run.IsProper :=
  inferInstanceAs (Decidable (_ ∧ _))

theorem isProper_of_mem_upperRuns : ∀ run ∈ upperRuns.toList, run.IsProper := by
  decide +kernel

theorem ofNat_ne_nul_of_mem_upperExpansions :
    ∀ entry ∈ upperExpansions.toList, ∀ code ∈ entry.2, Char.ofNat code ≠ '\x00' := by
  decide +kernel

theorem CaseRun.IsProper.ofNat_apply_ne_nul {run : CaseRun} (h : run.IsProper) {code : Nat}
    (hcovers : run.covers code = true) : Char.ofNat (run.apply code) ≠ '\x00' := by
  obtain ⟨hfirst, hvalid⟩ := h
  simp only [covers, Bool.and_eq_true, decide_eq_true_eq] at hcovers
  obtain ⟨⟨hge, hle⟩, -⟩ := hcovers
  have hvalue : (run.apply code : Int) = code + run.shift := by
    show ((code + run.shift : Int).toNat : Int) = code + run.shift
    omega
  refine ofNat_ne_nul (by omega) ?_
  unfold Nat.isValidChar
  omega

theorem nul_notMem_upperChar {c : Char} (h : c ≠ '\x00') : '\x00' ∉ upperChar c := by
  intro hmem
  simp only [upperChar] at hmem
  split at hmem
  · rename_i hascii
    exact toUpper_ne_nul h hascii (List.mem_singleton.mp hmem).symm
  · split at hmem
    · rename_i hfound
      obtain ⟨code, hcode, hnul⟩ := List.mem_map.mp hmem
      have hentry := Array.mem_toList_iff.mpr (Array.mem_of_find?_eq_some hfound)
      exact ofNat_ne_nul_of_mem_upperExpansions _ hentry code hcode hnul
    · split at hmem
      · rename_i run hfound
        have hrun := isProper_of_mem_upperRuns run
          (Array.mem_toList_iff.mpr (Array.mem_of_find?_eq_some hfound))
        have hcovers := Array.find?_some hfound
        exact hrun.ofNat_apply_ne_nul hcovers (List.mem_singleton.mp hmem).symm
      · exact h (List.mem_singleton.mp hmem).symm

theorem nulFree_uppercased {s : String} (h : NulFree s) : NulFree (uppercased s) := by
  intro hmem
  rw [uppercased, String.toList_ofList, upper, List.mem_flatMap] at hmem
  obtain ⟨c, hc, hnul⟩ := hmem
  refine nul_notMem_upperChar ?_ hnul
  rintro rfl
  exact h hc

/-! ## Letters and digits of ASCII -/

theorem lt_of_isAlphanum {c : Char} (h : c.isAlphanum = true) : c.toNat < 0x80 := by
  rw [Char.isAlphanum, Bool.or_eq_true, isAlpha_iff, isDigit_iff] at h
  omega

theorem isBlank_of_isAlphanum {c : Char} (h : c.isAlphanum = true) : isBlank c = false := by
  have hascii := lt_of_isAlphanum h
  rw [Char.isAlphanum, Bool.or_eq_true, isAlpha_iff, isDigit_iff] at h
  simp only [isBlank, Bool.or_eq_false_iff, Bool.and_eq_false_iff, decide_eq_false_iff_not,
    beq_eq_false_iff_ne]
  omega

/-- The upper case of a letter or digit is that letter or digit in some case. -/
theorem fold_upperChar {c : Char} (h : c.isAlphanum = true) : fold (upperChar c) = [c.toLower] := by
  have hall : ∀ n : Fin 0x80, fold (upperChar (Char.ofNat n)) = [(Char.ofNat n).toLower] := by
    decide
  have hc := hall ⟨c.toNat, lt_of_isAlphanum h⟩
  rwa [Char.ofNat_toNat] at hc

/-- A text of letters and digits is its own upper case, up to case. -/
theorem fold_uppercased {s : String} (h : ∀ c ∈ s.toList, c.isAlphanum = true) :
    fold (uppercased s).toList = fold s.toList := by
  rw [uppercased, String.toList_ofList, upper]
  generalize s.toList = letters at h
  induction letters with
  | nil => rfl
  | cons c rest ih =>
    rw [List.forall_mem_cons] at h
    rw [List.flatMap_cons, fold_append, fold_upperChar h.1, ih h.2]
    rfl

end CardCensus.Text
