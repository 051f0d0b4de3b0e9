import CardCensus.Proofs.Text.Case
import CardCensus.Text.Upper
import CardCensus.Text.Words

/-!
# Reading a folded text

A text is cut, trimmed and brought to upper case alike whether or not its ASCII letters have been
folded before: no letter separates, marks or is a blank, and both cases of a letter have one upper
case.

Results:
* `pieces_fold`, `cutAtChar_fold`: a folded text is cut where the text is.
* `trim_fold`, `words_fold`: blanks are found where they were.
* `uppercased_folded`: the upper case of a text does not depend on the case of its ASCII letters.
-/

namespace CardCensus.Text

/-! ## Characters -/

/-- A character that is no capital of ASCII is its own lower case. -/
theorem toLower_eq_self {c : Char} (h : c.toNat < 65 ∨ 90 < c.toNat) : c.toLower = c := by
  rw [← Char.toNat_inj, toNat_toLower]
  split <;> omega

theorem toLower_toLower (c : Char) : c.toLower.toLower = c.toLower := by
  apply toLower_eq_self
  rw [toNat_toLower]
  split <;> omega

theorem isBlank_toLower (c : Char) : isBlank c.toLower = isBlank c := by
  have hletter : ∀ n : Nat, 65 ≤ n ∧ n ≤ 122 → ∀ d : Char, d.toNat = n → isBlank d = false := by
    intro n hn d hd
    simp only [isBlank, hd, Bool.or_eq_false_iff, Bool.and_eq_false_iff, decide_eq_false_iff_not,
      beq_eq_false_iff_ne]
    omega
  by_cases h : 65 ≤ c.toNat ∧ c.toNat ≤ 90
  · have hlower : c.toLower.toNat = c.toNat + 32 := by rw [toNat_toLower, if_pos h]
    rw [hletter _ (by omega) _ hlower, hletter _ (by omega) c rfl]
  · rw [toLower_eq_self (by omega)]

theorem upperChar_toLower (c : Char) : upperChar c.toLower = upperChar c := by
  have hcapital : ∀ n : Fin 26, upperChar (Char.ofNat (65 + n)).toLower =
      upperChar (Char.ofNat (65 + n)) := by
    decide
  by_cases h : 65 ≤ c.toNat ∧ c.toNat ≤ 90
  · have hc : Char.ofNat (65 + (c.toNat - 65)) = c := by
      rw [Nat.add_sub_cancel' h.1, Char.ofNat_toNat]
    have hthis := hcapital ⟨c.toNat - 65, by omega⟩
    rwa [hc] at hthis
  · rw [toLower_eq_self (by omega)]

/-! ## Texts -/

@[simp] theorem fold_fold (s : List Char) : fold (fold s) = fold s := by
  rw [fold, fold, List.map_map]
  exact List.map_congr_left fun c _ => toLower_toLower c

@[simp] theorem toList_folded (s : String) : (folded s).toList = fold s.toList := by
  rw [folded, String.toList_ofList]

theorem folded_ofList (s : List Char) : folded (String.ofList s) = String.ofList (fold s) := by
  rw [folded, String.toList_ofList]

theorem folded_eq_iff {a b : String} : folded a = folded b ↔ fold a.toList = fold b.toList := by
  rw [← String.toList_inj, toList_folded, toList_folded]

theorem folded_eq_empty_iff {s : String} : folded s = "" ↔ s = "" := by
  rw [← String.toList_inj, ← String.toList_inj, toList_folded]
  exact List.map_eq_nil_iff

theorem isBlankText_fold (s : List Char) : isBlankText (fold s) = isBlankText s := by
  have hblank : isBlank ∘ Char.toLower = isBlank := funext isBlank_toLower
  rw [isBlankText, fold, List.all_map, hblank, isBlankText]

theorem pieces_fold {isSeparator : Char → Bool}
    (h : ∀ c : Char, isSeparator c.toLower = isSeparator c)
    (s : List Char) : pieces isSeparator (fold s) = (pieces isSeparator s).map fold := by
  induction s with
  | nil => rfl
  | cons c rest ih =>
    have hcons : fold (c :: rest) = c.toLower :: fold rest := rfl
    rw [hcons, pieces, pieces, h, ih]
    cases isSeparator c with
    | true => rfl
    | false => cases pieces isSeparator rest <;> rfl

/-- A mark that is no letter stands in a folded text where it stands in the text. -/
theorem beq_toLower {mark : Char} (h : mark.isAlpha = false) (c : Char) :
    (c.toLower == mark) = (c == mark) := by
  have hnot : ¬ mark.isAlpha = true := by rw [h]; decide
  rw [isAlpha_iff] at hnot
  rw [Bool.eq_iff_iff, beq_iff_eq, beq_iff_eq]
  exact toLower_eq_iff (by omega) (by omega)

theorem cutAtChar_fold {mark : Char} (h : mark.isAlpha = false) (s : List Char) :
    cutAtChar mark (fold s) = (cutAtChar mark s).map fun (before, after) =>
      (fold before, fold after) := by
  induction s with
  | nil => rfl
  | cons c rest ih =>
    have hcons : fold (c :: rest) = c.toLower :: fold rest := rfl
    have hprefix : [mark].isPrefixOf (c.toLower :: fold rest) = [mark].isPrefixOf (c :: rest) := by
      have hmark := beq_toLower h c
      rw [Bool.beq_comm, Bool.beq_comm (a := c)] at hmark
      simp [List.isPrefixOf, hmark]
    rw [hcons, cutAtChar, cutAt, cutAtChar, cutAt, hprefix]
    split
    · rfl
    · rw [← cutAtChar, ← cutAtChar, ih, Option.map_map, Option.map_map]
      rfl

theorem trimStart_fold (s : List Char) : trimStart (fold s) = fold (trimStart s) := by
  have hblank : isBlank ∘ Char.toLower = isBlank := funext isBlank_toLower
  rw [trimStart, fold, List.dropWhile_map, hblank]
  rfl

theorem trim_fold (s : List Char) : trim (fold s) = fold (trim s) := by
  have hend : ∀ t : List Char, trimEnd (fold t) = fold (trimEnd t) := by
    intro t
    have hreverse : (fold t).reverse = fold t.reverse := List.map_reverse.symm
    rw [trimEnd, hreverse, ← trimStart, trimStart_fold, fold, ← List.map_reverse]
    rfl
  rw [trim, trimStart_fold, hend, trim]

theorem nul_mem_fold_iff {s : List Char} : '\x00' ∈ fold s ↔ '\x00' ∈ s := by
  have hnul : ∀ c : Char, c.toLower = '\x00' ↔ c = '\x00' :=
    fun c => toLower_eq_iff (by decide) (by decide)
  simp [fold, hnul]

theorem untilNul_fold (s : List Char) : untilNul (fold s) = fold (untilNul s) := by
  have hnul : (· != '\x00') ∘ Char.toLower = (· != '\x00') := by
    funext c
    exact congrArg Bool.not (beq_toLower (by decide) c)
  rw [untilNul, fold, List.takeWhile_map, hnul]
  rfl

theorem words_fold (s : List Char) : words (fold s) = (words s).map fold := by
  have hempty : (fun word : List Char => !word.isEmpty) ∘ fold = fun word => !word.isEmpty := by
    funext word
    cases word <;> rfl
  rw [words, pieces_fold isBlank_toLower, List.filter_map, hempty, words]

theorem fold_intercalate (separator : List Char) (parts : List (List Char)) :
    fold (separator.intercalate parts) = (fold separator).intercalate (parts.map fold) := by
  induction parts with
  | nil => rfl
  | cons part parts ih =>
    cases parts with
    | nil => simp
    | cons next rest =>
      rw [List.intercalate_cons_cons, fold_append, fold_append, ih]
      simp

theorem uppercased_folded (s : String) : uppercased (folded s) = uppercased s := by
  have hupper : upperChar ∘ Char.toLower = upperChar := funext upperChar_toLower
  rw [uppercased, toList_folded, upper, fold, List.flatMap_map]
  exact congrArg String.ofList (congrArg (fun f => List.flatMap f s.toList) hupper)

end CardCensus.Text
