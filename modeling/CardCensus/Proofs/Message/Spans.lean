import CardCensus.Message
import CardCensus.Proofs.Text.Occurrence

/-!
# The spans of a message

The scan for spans looks for the first opening mark and for the first closing mark behind it, and
goes on behind that. So a text is without a span, or it is a text, a span, and another text; what
holds of all texts is proved along these two cases, with no look at the scan itself.

Results:
* `span_induction`: the two cases as a principle of induction.
* `spansFrom_of_not_holdsSpan`, `spansFrom_span`: what the scan finds in either case.
* `isFirst_statsMark`, `isFirst_closingMark`, `isFirst_closingMark_across`: which marks are the
  first.
* `standsIn_of_mem`: a span stands in the text where it says.
* `exists_span_over`: an opening mark with a closing mark behind it lies in a span.
-/

namespace CardCensus.Message

open Text (IsFirst cutAt)

variable {opening : List Char} {accepts : Option Char → Bool} {start : Nat} {previous : Option Char}
  {s text interior after : List Char} {span : Span}

/-! ## Span by span -/

/-- Somewhere in the text stands an opening mark with a closing mark behind it. -/
def HoldsSpan (opening s : List Char) : Prop :=
  ∃ before interior after, s = before ++ opening ++ (interior ++ closingMark ++ after)

theorem not_holdsSpan_of_open {inside : List Char} (hopen : cutAt opening s = some (text, inside))
    (hclose : cutAt closingMark inside = none) : ¬ HoldsSpan opening s := by
  rintro ⟨before, interior, after, h⟩
  obtain ⟨hs, hfirst⟩ := Text.cutAt_eq_some_iff.mp hopen
  have hle : text.length ≤ before.length :=
    hfirst before (interior ++ closingMark ++ after) (hs ▸ h)
  have hrest : interior ++ closingMark ++ after <:+ s := ⟨before ++ opening, h.symm⟩
  have hinside : inside <:+ s := ⟨text ++ opening, hs.symm⟩
  have hlength : (interior ++ closingMark ++ after).length ≤ inside.length := by
    have hsize := congrArg List.length (hs.symm.trans h)
    simp only [List.length_append] at hsize ⊢
    omega
  have hclosing : closingMark <:+: interior ++ closingMark ++ after := ⟨interior, after, rfl⟩
  exact Text.cutAt_eq_none_iff.mp hclose
    (hclosing.trans (List.suffix_of_suffix_length_le hrest hinside hlength).isInfix)

/-- Every text is without a span, or it has a first span with another text behind it. -/
theorem span_induction (opening : List Char) {motive : List Char → Prop}
    (none : ∀ s, ¬ HoldsSpan opening s → motive s)
    (span : ∀ text interior after, IsFirst opening text (interior ++ closingMark ++ after) →
      IsFirst closingMark interior after → motive after →
      motive (text ++ opening ++ (interior ++ closingMark ++ after)))
    (s : List Char) : motive s := by
  match hopen : cutAt opening s with
  | .none =>
    refine none s fun ⟨before, interior, after, h⟩ => Text.cutAt_eq_none_iff.mp hopen ?_
    exact ⟨before, interior ++ closingMark ++ after, h.symm⟩
  | some (text, inside) =>
    match hclose : cutAt closingMark inside with
    | .none => exact none s (not_holdsSpan_of_open hopen hclose)
    | some (interior, after) =>
      obtain ⟨hs, hfirst⟩ := Text.cutAt_eq_some_iff.mp hopen
      obtain ⟨hinside, hfirst'⟩ := Text.cutAt_eq_some_iff.mp hclose
      rw [hs, hinside]
      exact span text interior after (hinside ▸ hfirst) hfirst'
        (span_induction opening none span after)
termination_by s.length
decreasing_by
  have hopening := Text.length_of_cutAt hopen
  have hclosing := Text.length_of_cutAt hclose
  simp only [closingMark, List.length_cons, List.length_nil] at hclosing
  omega

theorem spansFrom_of_not_holdsSpan (h : ¬ HoldsSpan opening s) :
    spansFrom opening accepts start previous s = [] := by
  rw [spansFrom]
  split
  · rfl
  · rename_i text inside hopen
    split
    · rfl
    · rename_i interior after hclose
      rw [Text.cutAt_eq_some hclose] at hopen
      exact absurd ⟨text, interior, after, Text.cutAt_eq_some hopen⟩ h

/-- The span behind a text, if it is accepted. -/
def firstSpan (accepts : Option Char → Bool) (start : Nat) (previous : Option Char)
    (text interior : List Char) :
    List Span :=
  if accepts (text.getLast?.or previous) then [⟨start + text.length, interior⟩] else []

theorem eq_of_mem_firstSpan (h : span ∈ firstSpan accepts start previous text interior) :
    span = ⟨start + text.length, interior⟩ := by
  unfold firstSpan at h
  split_ifs at h
  · exact List.mem_singleton.mp h
  · cases h

/-- The spans of a text are its first one, if it is accepted, and those of the text behind it. -/
theorem spansFrom_span (hopen : IsFirst opening text (interior ++ closingMark ++ after))
    (hclose : IsFirst closingMark interior after) :
    spansFrom opening accepts start previous
      (text ++ opening ++ (interior ++ closingMark ++ after)) =
      firstSpan accepts start previous text interior ++
        spansFrom opening accepts (start + (text ++ opening ++ (interior ++ closingMark)).length)
          closingMark.getLast? after := by
  have hcut := Text.cutAt_eq_some_iff.mpr ⟨rfl, hopen⟩
  have hcut' := Text.cutAt_eq_some_iff.mpr ⟨rfl, hclose⟩
  rw [spansFrom]
  split
  · rename_i hnone
    rw [hcut] at hnone
    cases hnone
  · rename_i hsome
    obtain ⟨rfl, rfl⟩ := Prod.mk.inj (Option.some.inj (hcut.symm.trans hsome))
    split
    · rename_i hnone
      rw [hcut'] at hnone
      cases hnone
    · rename_i hsome'
      obtain ⟨rfl, rfl⟩ := Prod.mk.inj (Option.some.inj (hcut'.symm.trans hsome'))
      simp only [List.length_append, ← Nat.add_assoc]
      rw [firstSpan]
      split <;> rfl

/-! ## Marks that stand first -/

/-- The opening mark of statistics is found behind a text that does not hold it: no mark starts
    inside another. -/
theorem isFirst_statsMark (h : ¬ statsMark <:+: text) : IsFirst statsMark text after := by
  apply Text.isFirst_of_cutAt
  apply Text.cutAt_append_needle h
  apply Text.isApart_of_head
  simp [statsMark]

/-- Behind a text that does not end with a closing bracket, no closing mark starts within
    the text. -/
theorem isApart_closingMark (hlast : text.getLast? ≠ some ']') :
    Text.IsApart closingMark text after := by
  apply Text.isApart_of_last
  rintro c hc hmem
  obtain rfl : c = ']' := by simpa [closingMark] using hmem
  exact hlast hc

/-- The closing mark is found behind an interior that neither holds it nor ends within it. -/
theorem isFirst_closingMark (h : ¬ closingMark <:+: interior)
    (hlast : interior.getLast? ≠ some ']') :
    IsFirst closingMark interior after :=
  Text.isFirst_of_cutAt (Text.cutAt_append_needle h (isApart_closingMark hlast))

/-- A closing mark that is the first behind an opening mark is also the first behind an earlier
    place, unless there is one between. -/
theorem isFirst_closingMark_across (h : IsFirst closingMark interior after) {between : List Char}
    (hbetween : ¬ closingMark <:+: between) (hne : opening ≠ []) (hplain : ']' ∉ opening) :
    IsFirst closingMark (between ++ opening ++ interior) after := by
  have hopening : IsFirst closingMark (opening ++ interior) after :=
    h.prepend (fun hinside => hplain (hinside.subset List.mem_cons_self))
      (isApart_closingMark fun hlast => hplain (List.mem_of_getLast? hlast))
  rw [List.append_assoc]
  apply hopening.prepend hbetween
  apply Text.isApart_of_head
  rintro c hc hmem
  obtain rfl : c = ']' := by simpa [closingMark] using hmem
  obtain ⟨d, marks, rfl⟩ := List.exists_cons_of_ne_nil hne
  obtain rfl : d = ']' := by simpa using hc
  exact hplain List.mem_cons_self

/-! ## Where spans stand -/

/-- The place behind the closing mark of a span. -/
def Span.stop (opening : List Char) (span : Span) : Nat :=
  span.start + opening.length + span.interior.length + closingMark.length

/-- The span stands between its marks where it says, in a text that starts at the given place. -/
def Span.StandsIn (opening : List Char) (start : Nat) (s : List Char) (span : Span) : Prop :=
  ∃ before after, s = before ++ opening ++ (span.interior ++ closingMark ++ after) ∧
    span.start = start + before.length

theorem standsIn_of_mem (h : span ∈ spansFrom opening accepts start previous s) :
    span.StandsIn opening start s := by
  induction s using span_induction opening generalizing start previous with
  | none s hnone =>
    rw [spansFrom_of_not_holdsSpan hnone] at h
    cases h
  | span text interior after hopen hclose ih =>
    rw [spansFrom_span hopen hclose, List.mem_append] at h
    rcases h with h | h
    · obtain rfl := eq_of_mem_firstSpan h
      exact ⟨text, after, rfl, rfl⟩
    · obtain ⟨before, behind, rfl, hstart⟩ := ih h
      refine ⟨text ++ opening ++ (interior ++ closingMark ++ before), behind, by simp, ?_⟩
      rw [hstart]
      simp only [List.length_append]
      omega

theorem start_le_of_mem (h : span ∈ spansFrom opening accepts start previous s) :
    start ≤ span.start := by
  obtain ⟨before, after, -, hstart⟩ := standsIn_of_mem h
  omega

/-- Where every opening mark is accepted, one with a closing mark behind it lies in a span. -/
theorem exists_span_over (start : Nat) (previous : Option Char) {before : List Char}
    (h : s = before ++ opening ++ (interior ++ closingMark ++ after)) :
    ∃ span ∈ spansFrom opening acceptsAnywhere start previous s,
      span.start ≤ start + before.length ∧ start + before.length < span.stop opening := by
  induction s using span_induction opening generalizing start previous before with
  | none s hnone => exact absurd ⟨before, interior, after, h⟩ hnone
  | span text inner behind hopen hclose ih =>
    have hle : text.length ≤ before.length := hopen before (interior ++ closingMark ++ after) h
    by_cases hlt : before.length < text.length + opening.length + inner.length + closingMark.length
    · refine ⟨⟨start + text.length, inner⟩, ?_, ?_, ?_⟩
      · rw [spansFrom_span hopen hclose]
        exact List.mem_append_left _ List.mem_cons_self
      · exact Nat.add_le_add_left hle start
      · simp only [Span.stop]
        omega
    · -- the mark stands behind the first span
      have hwhole : text ++ opening ++ (inner ++ closingMark) ++ behind =
          before ++ (opening ++ (interior ++ closingMark ++ after)) := by
        simpa only [List.append_assoc] using h
      have hlength : (text ++ opening ++ (inner ++ closingMark)).length ≤ before.length := by
        simp only [List.length_append]
        omega
      obtain ⟨later, rfl⟩ := List.prefix_of_prefix_length_le ⟨behind, hwhole⟩ ⟨_, rfl⟩ hlength
      have hbehind : behind = later ++ opening ++ (interior ++ closingMark ++ after) := by
        simpa only [List.append_assoc, List.append_cancel_left_eq] using hwhole
      obtain ⟨span, hspan, hbefore, hafter⟩ := ih
        (start + (text ++ opening ++ (inner ++ closingMark)).length) closingMark.getLast? hbehind
      refine ⟨span, ?_, ?_, ?_⟩
      · rw [spansFrom_span hopen hclose]
        exact List.mem_append_right _ hspan
      · rw [List.length_append, ← Nat.add_assoc]
        exact hbefore
      · rw [List.length_append, ← Nat.add_assoc]
        exact hafter

end CardCensus.Message
