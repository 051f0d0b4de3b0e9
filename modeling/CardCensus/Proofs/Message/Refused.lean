import CardCensus.Proofs.Message.Spans

/-!
# Lookups behind refused marks

A lookup mark in the middle of a word is refused, but it still takes part in the scan: everything up
to the next closing mark belongs to it, and the scan goes on behind that. So a refused mark that is
not closed hides the lookup that comes next.

Results:
* `lookups_single`: a lookup behind a text without lookup marks.
* `lookups_swallowed`: a lookup behind a refused mark that is still open.
* `lookups_behind_refused`: what is found behind a text that holds no accepted mark.
-/

namespace CardCensus.Message

open Text (IsFirst)

/-- The text is empty or ends with a blank, closes nothing, and none of its lookup marks is
    accepted. -/
structure IsRefusing (text : List Char) : Prop where
  blank : acceptsAfterBlank text.getLast? = true
  unclosed : ¬ closingMark <:+: text
  refused : ∀ before after, text = before ++ lookupMark ++ after →
    acceptsAfterBlank before.getLast? = false

variable {text name : List Char}

theorem spansFrom_nil {opening : List Char} (h : opening ≠ []) (accepts : Option Char → Bool)
    (start : Nat)
    (previous : Option Char) : spansFrom opening accepts start previous [] = [] := by
  apply spansFrom_of_not_holdsSpan
  rintro ⟨before, interior, after, heq⟩
  simp [h] at heq

/-- A lookup is found behind a text that is empty or ends with a blank, if the text has no lookup
    mark. -/
theorem lookups_single (hblank : acceptsAfterBlank text.getLast? = true)
    (hfree : ¬ lookupMark <:+: text)
    (hname : IsFirst closingMark name []) :
    lookups (String.ofList (text ++ lookupMark ++ (name ++ closingMark ++ []))) =
      [String.ofList name] := by
  have hopen : IsFirst lookupMark text (name ++ closingMark ++ []) := by
    apply Text.isFirst_of_cutAt
    apply Text.cutAt_append_needle hfree
    apply Text.isApart_of_last
    rintro c hc hmem
    obtain rfl : c = '[' := by simpa [lookupMark] using hmem
    rw [Option.mem_def.mp hc] at hblank
    exact absurd hblank (by decide)
  rw [lookups, lookupSpans, String.toList_ofList, spansFrom_span hopen hname,
    spansFrom_nil (by decide), firstSpan,
    Option.or_none, if_pos hblank]
  rfl

/-- A lookup is not found behind a refused mark that is not closed before. -/
theorem lookups_swallowed {front between : List Char} (hfirst : IsFirst lookupMark front between)
    (hrefused : acceptsAfterBlank front.getLast? = false) (hunclosed : ¬ closingMark <:+: between)
    (hname : IsFirst closingMark name []) :
    lookups
      (String.ofList
        (front ++ lookupMark ++ between ++ lookupMark ++ (name ++ closingMark ++ []))) = [] := by
  have hclose : IsFirst closingMark (between ++ lookupMark ++ name) [] :=
    isFirst_closingMark_across hname hunclosed (by decide) (by decide)
  have hopen : IsFirst lookupMark front (between ++ lookupMark ++ name ++ closingMark ++ []) := by
    simpa only [List.append_assoc] using hfirst.append (lookupMark ++ (name ++ (closingMark ++ [])))
  have hwhole : front ++ lookupMark ++ between ++ lookupMark ++ (name ++ closingMark ++ []) =
      front ++ lookupMark ++ (between ++ lookupMark ++ name ++ closingMark ++ []) := by
    simp only [List.append_assoc]
  rw [lookups, lookupSpans, String.toList_ofList, hwhole, spansFrom_span hopen hclose,
    spansFrom_nil (by decide),
    firstSpan, Option.or_none, hrefused]
  rfl

/-- **Main theorem.** Behind a text whose lookup marks are all refused and never closed, a lookup is
    found exactly when there is no such mark. -/
theorem lookups_behind_refused {text name : String} (h : IsRefusing text.toList)
    (hname : ¬ closingMark <:+: name.toList) (hlast : name.toList.getLast? ≠ some ']') :
    lookups (text ++ "[[" ++ name ++ "]]") = if lookupMark <:+: text.toList then []
      else [name] := by
  have hclose : IsFirst closingMark name.toList [] := isFirst_closingMark hname hlast
  have hmessage : text ++ "[[" ++ name ++ "]]" =
      String.ofList (text.toList ++ lookupMark ++ (name.toList ++ closingMark ++ [])) := by
    apply String.toList_injective
    simp [lookupMark, closingMark]
  rw [hmessage]
  by_cases hmark : lookupMark <:+: text.toList
  · rw [if_pos hmark]
    cases hcut : Text.cutAt lookupMark text.toList with
    | none => exact absurd hmark (Text.cutAt_eq_none_iff.mp hcut)
    | some parts =>
      obtain ⟨front, between⟩ := parts
      obtain ⟨htext, hfirst⟩ := Text.cutAt_eq_some_iff.mp hcut
      have hunclosed : ¬ closingMark <:+: between := by
        rintro ⟨inner, behind, rfl⟩
        refine h.unclosed ⟨front ++ lookupMark ++ inner, behind, ?_⟩
        rw [htext]
        simp only [List.append_assoc]
      rw [htext]
      exact lookups_swallowed hfirst (h.refused front between htext) hunclosed hclose
  · rw [if_neg hmark, lookups_single h.blank hmark hclose, String.ofList_toList]

theorem isRefusing_of_free {text : List Char} (hblank : acceptsAfterBlank text.getLast? = true)
    (hunclosed : ¬ closingMark <:+: text) (hfree : ¬ lookupMark <:+: text) : IsRefusing text where
  blank := hblank
  unclosed := hunclosed
  refused before after h := absurd ⟨before, after, h.symm⟩ hfree

/-- A text with one lookup mark, in the middle of a word. -/
theorem isRefusing_midword : IsRefusing "x[[y ".toList where
  blank := by decide
  unclosed := by decide
  refused before after h := by
    rcases before with _ | ⟨a, _ | ⟨b, _ | ⟨c, before⟩⟩⟩
    · simp [lookupMark] at h
    · simp [lookupMark] at h
      obtain ⟨rfl, -⟩ := h
      decide
    · simp [lookupMark] at h
    · rcases before with _ | ⟨d, before⟩
      · simp [lookupMark] at h
      · have hlength := congrArg List.length h
        simp [lookupMark] at hlength
        omega

theorem lookups_behind_refused_twice :
    IsRefusing "so [x#[ ".toList ∧ lookups "so [x#[ [[Lightning Bolt|LEA]]" =
      ["Lightning Bolt|LEA"] ∧
    IsRefusing "x[[y ".toList ∧ lookups "x[[y [[Shock]]" = [] := by
  have hfree : IsRefusing "so [x#[ ".toList :=
    isRefusing_of_free (by decide) (by decide) (by decide)
  refine ⟨hfree, ?_, isRefusing_midword, ?_⟩
  · exact @lookups_behind_refused "so [x#[ " "Lightning Bolt|LEA" hfree (by decide) (by decide)
  · exact @lookups_behind_refused "x[[y " "Shock" isRefusing_midword (by decide) (by decide)

/-- A lookup between blanks is hidden by a refused mark in the middle of an earlier word. -/
theorem lookups_hidden : IsRefusing "x[[y ".toList ∧ ¬ statsMark <:+: "x[[y ".toList ∧
    ¬ closingMark <:+: "Elf".toList ∧ "Elf".toList.getLast? ≠ some ']' ∧
    lookups ("x[[y " ++ "[[" ++ "Elf" ++ "]]") ≠ ["Elf"] := by
  refine ⟨isRefusing_midword, by decide, by decide, by decide, ?_⟩
  have hnone : lookups ("x[[y " ++ "[[" ++ "Elf" ++ "]]") = [] := by cbv
  rw [hnone]
  exact List.cons_ne_nil _ _ ∘ Eq.symm

end CardCensus.Message
