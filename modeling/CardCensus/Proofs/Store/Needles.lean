import CardCensus.Proofs.Text.Comparison
import CardCensus.Sql.Grouped
import CardCensus.Store.Selection

/-!
# Needles are taken literally

A test for a needle binds one pattern. Whatever the needle is made of, the wildcards and the escapes
of the pattern among it, the pattern covers the texts that hold the needle in some case of its ASCII
letters, and no others. The matcher that the tests run agrees with the rules of patterns for every
pattern and every text.

Results:
* `needle_stands_for_itself`: the pattern of a needle, its escapes, and the test itself.
-/

namespace CardCensus.Store

open Text (Comparison Covers NulFree)

theorem covers_containing_iff {needle s : List Char} :
    Covers (Text.containing needle) s ↔ Text.fold needle <:+: Text.fold s := by
  rw [← Text.matchesPattern_iff_covers, Text.matchesPattern_containing]

/-- **Main theorem.** The one pattern that a test for a needle binds covers exactly the texts that
    hold the needle in some case, and the matcher finds exactly what a pattern covers. So does the
    test, where neither the needle nor the text has a character with number zero. Different needles
    are escaped differently. -/
theorem needle_stands_for_itself :
    (∀ (column : Column) (needle : String) (negated : Bool) (text : String), ∃ pattern,
      Sql.boundTexts (.contains column needle negated) = [pattern] ∧
        (Covers pattern.toList text.toList ↔ Comparison.plain.holds text needle)) ∧
    (∀ pattern s : List Char, Text.matchesPattern pattern s = true ↔ Covers pattern s) ∧
    (∀ needle text : String, NulFree needle → NulFree text →
      (holdsNeedle text needle = true ↔ Comparison.plain.holds text needle)) ∧
    Function.Injective Text.escape := by
  refine ⟨fun column needle negated text => ?_, fun pattern s => Text.matchesPattern_iff_covers,
    fun needle text hneedle htext => ?_, Text.escape_injective⟩
  · refine ⟨String.ofList (Text.containing needle.toList), by rw [Sql.boundTexts], ?_⟩
    rw [String.toList_ofList]
    exact covers_containing_iff
  · rw [← Text.holdsUpToNul_iff htext hneedle]
    exact Text.matchesPattern_untilNul_iff

/-- A needle of marks only is found where it stands, and does not stand for other characters. -/
theorem needle_stands_for_itself_marks :
    NulFree "%_\\a" ∧ NulFree "x%_\\Ay" ∧ NulFree "xbc\\ay" ∧
    holdsNeedle "x%_\\Ay" "%_\\a" = true ∧ ¬ holdsNeedle "xbc\\ay" "%_\\a" = true := by
  have htest := needle_stands_for_itself.2.2.1
  have hneedle : NulFree "%_\\a" := by decide
  have hfound : NulFree "x%_\\Ay" := by decide
  have hother : NulFree "xbc\\ay" := by decide
  refine ⟨hneedle, hfound, hother, (htest _ _ hneedle hfound).mpr ?_,
    mt (htest _ _ hneedle hother).mp ?_⟩
  · exact ⟨['x'], ['y'], by decide⟩
  · change ¬ Text.fold "%_\\a".toList <:+: Text.fold "xbc\\ay".toList
    decide

end CardCensus.Store
