import CardCensus.Proofs.Text.Folding
import CardCensus.Proofs.Text.Pattern

/-!
# How texts are compared

Two texts are meant to be the same when they differ in the case of ASCII letters only, and one holds
the other when it does so in some case. The tables do not quite compare them so: they read a text up
to its first character with number zero, and where they look for a part of it they take some
characters for another.

Results:
* `collatesAs_iff`: the comparison of the tables, spelled out.
* `stored_same_iff`, `stored_holds_iff`: on texts without a character with number zero, which are
  readable where a part is looked for, the tables compare texts as is meant.
* `stored_same_iff_of_nulFree`: it is enough that one of the two texts has no such character.
-/

namespace CardCensus.Text

/-- Which texts are the same, and which texts hold which. -/
structure Comparison where
  same : String → String → Prop
  holds : String → String → Prop

/-- The text holds the needle, both read up to the first character with number zero. A needle that
    is cut short there has to be at the end. -/
def HoldsUpToNul (text needle : String) : Prop :=
  if '\x00' ∈ needle.toList then fold (untilNul needle.toList) <:+ fold (untilNul text.toList)
  else fold needle.toList <:+: fold (untilNul text.toList)

namespace Comparison

/-- Only the case of ASCII letters is ignored. -/
def plain : Comparison where
  same a b := fold a.toList = fold b.toList
  holds text needle := fold needle.toList <:+: fold text.toList

/-- Texts are read up to the first character with number zero. Of what lies behind it only the size
    counts when two texts are to be the same, and a needle that is cut short there has to be at the
    end. Where a needle is looked for, the text and the needle are taken as they are read. -/
def stored : Comparison where
  same a b := a.utf8ByteSize = b.utf8ByteSize ∧ fold (untilNul a.toList) = fold (untilNul b.toList)
  holds text needle := HoldsUpToNul (asRead text) (asRead needle)

end Comparison

/-- The text has no character with number zero. -/
def NulFree (s : String) : Prop :=
  '\x00' ∉ s.toList

instance (s : String) : Decidable (NulFree s) :=
  inferInstanceAs (Decidable (¬ _))

theorem collatesAs_iff {a b : String} : collatesAs a b = true ↔ Comparison.stored.same a b := by
  rw [collatesAs, Bool.and_eq_true, beq_iff_eq, beq_iff_eq]
  rfl

/-- The pattern for a needle, as far as it is read, finds the texts that hold the needle. -/
theorem matchesPattern_untilNul_iff {text needle : String} :
    matchesPattern (untilNul (containing needle.toList)) (untilNul text.toList) = true ↔
      HoldsUpToNul text needle := by
  rw [untilNul_containing, HoldsUpToNul]
  split
  · exact matchesPattern_ending
  · exact matchesPattern_containing

theorem stored_same_iff {a b : String} (ha : NulFree a) (hb : NulFree b) :
    Comparison.stored.same a b ↔ Comparison.plain.same a b := by
  show a.utf8ByteSize = b.utf8ByteSize ∧ _ ↔ fold a.toList = fold b.toList
  rw [untilNul_eq_self ha, untilNul_eq_self hb]
  exact and_iff_right_of_imp utf8ByteSize_eq_of_fold_eq

/-- A text that begins like another, and has the size of all of it, does not go on behind a
    character with number zero. -/
theorem untilNul_eq_self_of_size {a b : String} (hsize : a.utf8ByteSize = b.utf8ByteSize)
    (h : fold (untilNul a.toList) = fold b.toList) : untilNul a.toList = a.toList := by
  have hlen : String.utf8Len (untilNul a.toList) = String.utf8Len a.toList := by
    calc String.utf8Len (untilNul a.toList)
        = String.utf8Len b.toList := by rw [← utf8Len_fold, h, utf8Len_fold]
      _ = b.utf8ByteSize := by rw [← String.utf8ByteSize_ofList, String.ofList_toList]
      _ = String.utf8Len a.toList := by
        rw [← hsize, ← String.utf8ByteSize_ofList, String.ofList_toList]
  have hsplit : a.toList = untilNul a.toList ++ a.toList.dropWhile (· != '\x00') :=
    List.takeWhile_append_dropWhile.symm
  cases hrest : a.toList.dropWhile (· != '\x00') with
  | nil =>
    rw [hrest, List.append_nil] at hsplit
    exact hsplit.symm
  | cons c rest =>
    rw [hrest] at hsplit
    have hpos : 0 < c.utf8Size := c.utf8Size_pos
    have htotal := congrArg String.utf8Len hsplit
    rw [String.utf8Len_append, String.utf8Len_cons] at htotal
    omega

/-- A text without a character with number zero is compared as a whole. -/
theorem stored_same_iff_of_nulFree {a b : String} (hb : NulFree b) :
    Comparison.stored.same a b ↔ Comparison.plain.same a b := by
  constructor
  · rintro ⟨hsize, h⟩
    rw [untilNul_eq_self hb] at h
    rwa [untilNul_eq_self_of_size hsize h] at h
  · intro h
    have ha : NulFree a := by
      rw [NulFree, ← nul_mem_fold_iff, show fold a.toList = fold b.toList from h, nul_mem_fold_iff]
      exact hb
    exact (stored_same_iff ha hb).mpr h

/-- What is read does not depend on the case of ASCII letters. -/
theorem asRead_folded (s : String) : asRead (folded s) = folded (asRead s) := by
  have hchar : ∀ c : Char, readChar c.toLower = (readChar c).toLower := by
    intro c
    have hfirst : c.toLower = '\uFFFE' ↔ c = '\uFFFE' := toLower_eq_iff (by decide) (by decide)
    have hsecond : c.toLower = '\uFFFF' ↔ c = '\uFFFF' := toLower_eq_iff (by decide) (by decide)
    simp only [readChar, hfirst, hsecond]
    split
    · decide
    · rfl
  simp only [asRead, folded, fold, String.toList_ofList, List.map_map, Function.comp_def, hchar]

theorem holdsUpToNul_iff {text needle : String} (htext : NulFree text) (hneedle : NulFree needle) :
    HoldsUpToNul text needle ↔ Comparison.plain.holds text needle := by
  rw [HoldsUpToNul, if_neg hneedle, untilNul_eq_self htext]
  rfl

/-- Readable texts hold what they are meant to hold. -/
theorem stored_holds_iff {text needle : String} (htext : NulFree text) (hneedle : NulFree needle)
    (hread : IsReadable text) (hreadneedle : IsReadable needle) :
    Comparison.stored.holds text needle ↔ Comparison.plain.holds text needle := by
  show HoldsUpToNul (asRead text) (asRead needle) ↔ _
  rw [asRead_eq_self hread, asRead_eq_self hreadneedle]
  exact holdsUpToNul_iff htext hneedle

end CardCensus.Text
