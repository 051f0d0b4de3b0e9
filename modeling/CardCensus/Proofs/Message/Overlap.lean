import CardCensus.Proofs.Message.Spans

/-!
# Where statistics and lookups meet

The two scans of a message do not know of each other. A lookup mark stands inside every mark of
statistics, but there it follows a `#` and is refused, and then the scan for lookups goes on where
the statistics end. So the two scans meet again behind each span of statistics, and the one way for
a lookup to share a character with it is to be open when the statistics start: then it encloses
them.

Results:
* `exists_earlier_lookups`: the lookups of a text up to the end of a span of statistics.
* `apart_or_encloses`: two extracted spans are apart, or the lookup encloses the statistics.
* `shares_iff_encloses`: what the spans of a message have in common.
-/

namespace CardCensus.Message

open Text (IsFirst cutAt)

/-- The place is one of the span, its marks included. -/
def Span.Covers (opening : List Char) (span : Span) (place : Nat) : Prop :=
  span.start ≤ place ∧ place < span.stop opening

/-- The lookup is opened before the statistics, with no closing mark between, and both end with the
    same mark. -/
def Span.Encloses (lookup stats : Span) : Prop :=
  ∃ between, lookup.interior = between ++ statsMark ++ stats.interior ∧
    stats.start = lookup.start + lookupMark.length + between.length ∧ ¬ closingMark <:+: between

variable {text interior after s : List Char} {lookup stats : Span}

theorem Span.Encloses.stop_eq (h : lookup.Encloses stats) :
    lookup.stop lookupMark = stats.stop statsMark := by
  obtain ⟨between, hinterior, hstart, -⟩ := h
  simp only [Span.stop, hinterior, hstart, List.length_append]
  omega

/-! ## One span of statistics -/

/-- Without a lookup mark before it, the lookup mark of statistics is the first. -/
theorem isFirst_lookupMark_stats (h : ¬ lookupMark <:+: text) :
    IsFirst lookupMark (text ++ ['#']) after := by
  have hnone : ¬ lookupMark <:+: text ++ ['#'] := by
    rw [← Text.cutAt_eq_none_iff, Text.cutAt_append_of_none (Text.cutAt_eq_none_iff.mpr h)
      (Text.isApart_of_head (by simp [lookupMark]))]
    rfl
  apply Text.isFirst_of_cutAt
  exact Text.cutAt_append_needle hnone (Text.isApart_of_last (by simp [lookupMark]))

/-- Behind a text without a lookup mark, the lookup mark of statistics is refused, and the scan for
    lookups goes on where the statistics end. -/
theorem spansFrom_stats_of_no_mark (hopen : ¬ lookupMark <:+: text)
    (hclose : IsFirst closingMark interior after) (start : Nat) (previous : Option Char) :
    spansFrom lookupMark acceptsAfterBlank start previous
        (text ++ statsMark ++ (interior ++ closingMark ++ after)) =
      spansFrom lookupMark acceptsAfterBlank
        (start + (text ++ statsMark ++ (interior ++ closingMark)).length)
          closingMark.getLast? after := by
  have hfirst : IsFirst lookupMark (text ++ ['#']) (interior ++ closingMark ++ after) :=
    isFirst_lookupMark_stats hopen
  have hmark : ∀ rest, text ++ statsMark ++ rest = text ++ ['#'] ++ lookupMark ++ rest := by
    simp [statsMark, lookupMark]
  have hrefused : acceptsAfterBlank ((text ++ ['#']).getLast?.or previous) = false := by
    simp [acceptsAfterBlank]
    decide
  rw [hmark, hmark, spansFrom_span hfirst hclose, firstSpan, hrefused]
  rfl

/-- A lookup that is open when statistics start ends with them. -/
theorem spansFrom_stats_of_open {front between : List Char}
    (hopen : IsFirst lookupMark front between)
    (hbetween : ¬ closingMark <:+: between) (hclose : IsFirst closingMark interior after)
    (start : Nat) (previous : Option Char) :
    spansFrom lookupMark acceptsAfterBlank start previous
        (front ++ lookupMark ++ between ++ statsMark ++ (interior ++ closingMark ++ after)) =
      firstSpan acceptsAfterBlank start previous front (between ++ statsMark ++ interior) ++
        spansFrom lookupMark acceptsAfterBlank
          (start + (front ++ lookupMark ++ between ++ statsMark ++
            (interior ++ closingMark)).length) closingMark.getLast? after := by
  have hfirst :
      IsFirst lookupMark front (between ++ statsMark ++ interior ++ closingMark ++ after) := by
    simpa only [List.append_assoc] using hopen.append
      (statsMark ++ interior ++ closingMark ++ after)
  have hmark : ∀ rest,
      front ++ lookupMark ++ between ++ statsMark ++ (interior ++ closingMark ++ rest) =
        front ++ lookupMark ++ (between ++ statsMark ++ interior ++ closingMark ++ rest) := by
    simp only [List.append_assoc, implies_true]
  have hplace := hmark []
  simp only [List.append_nil] at hplace
  rw [hmark, spansFrom_span hfirst
    (isFirst_closingMark_across hclose hbetween (by decide) (by decide)), hplace]

/-- Up to the end of a span of statistics, each lookup ends before the statistics start or encloses
    them. -/
theorem exists_earlier_lookups (hclose : IsFirst closingMark interior after) (text : List Char)
    (start : Nat) (previous : Option Char) :
    ∃ earlier, spansFrom lookupMark acceptsAfterBlank start previous
        (text ++ statsMark ++ (interior ++ closingMark ++ after)) =
        earlier ++ spansFrom lookupMark acceptsAfterBlank
          (start + (text ++ statsMark ++ (interior ++ closingMark)).length)
            closingMark.getLast? after ∧
      ∀ lookup ∈ earlier, lookup.stop lookupMark ≤ start + text.length ∨
        lookup.Encloses ⟨start + text.length, interior⟩ := by
  induction text using span_induction lookupMark generalizing start previous with
  | none text hnone =>
    match hopen : cutAt lookupMark text with
    | .none =>
      refine ⟨[], ?_, fun _ => nofun⟩
      rw [spansFrom_stats_of_no_mark (Text.cutAt_eq_none_iff.mp hopen) hclose, List.nil_append]
    | some (front, between) =>
      obtain ⟨rfl, hfirst⟩ := Text.cutAt_eq_some_iff.mp hopen
      have hbetween : ¬ closingMark <:+: between := by
        rintro ⟨inner, behind, rfl⟩
        exact hnone ⟨front, inner, behind, rfl⟩
      refine ⟨_, spansFrom_stats_of_open hfirst hbetween hclose start previous, ?_⟩
      intro lookup hlookup
      obtain rfl := eq_of_mem_firstSpan hlookup
      refine Or.inr ⟨between, rfl, ?_, hbetween⟩
      simp only [List.length_append, Nat.add_assoc]
  | span front inner behind hfront hinner ih =>
    obtain ⟨earlier, heq, hearlier⟩ :=
      ih (start + (front ++ lookupMark ++ (inner ++ closingMark)).length)
      closingMark.getLast?
    have hfront' : IsFirst lookupMark front
        (inner ++ closingMark ++ (behind ++ statsMark ++ (interior ++ closingMark ++ after))) := by
      simpa only [List.append_assoc] using hfront.append
        (statsMark ++ (interior ++ closingMark ++ after))
    have hinner' :
        IsFirst closingMark inner (behind ++ statsMark ++ (interior ++ closingMark ++ after)) := by
      simpa only [List.append_assoc] using hinner.append
        (statsMark ++ (interior ++ closingMark ++ after))
    have hmark : ∀ rest, front ++ lookupMark ++ (inner ++ closingMark ++ behind) ++ statsMark ++
      rest =
        front ++ lookupMark ++ (inner ++ closingMark ++ (behind ++ statsMark ++ rest)) := by
      simp only [List.append_assoc, implies_true]
    have hplace : start + (front ++ lookupMark ++ (inner ++ closingMark)).length + behind.length =
        start + (front ++ lookupMark ++ (inner ++ closingMark ++ behind)).length := by
      simp only [List.length_append, Nat.add_assoc]
    refine ⟨firstSpan acceptsAfterBlank start previous front inner ++ earlier, ?_, ?_⟩
    · rw [hmark, spansFrom_span hfront' hinner', heq]
      simp only [List.append_assoc, List.length_append, Nat.add_assoc]
    · intro lookup hlookup
      rcases List.mem_append.mp hlookup with hlookup | hlookup
      · obtain rfl := eq_of_mem_firstSpan hlookup
        left
        simp only [Span.stop, List.length_append]
        omega
      · rw [← hplace]
        exact hearlier lookup hlookup

/-! ## All spans of a message -/

/-- Statistics and a lookup of one text are apart, or the lookup encloses the statistics. -/
theorem apart_or_encloses {start : Nat} {previous previous' : Option Char}
    (hstats : stats ∈ spansFrom statsMark acceptsAnywhere start previous s)
    (hlookup : lookup ∈ spansFrom lookupMark acceptsAfterBlank start previous' s) :
    stats.stop statsMark ≤ lookup.start ∨ lookup.stop lookupMark ≤ stats.start ∨
      lookup.Encloses stats := by
  induction s using span_induction statsMark generalizing start previous previous' with
  | none s hnone =>
    rw [spansFrom_of_not_holdsSpan hnone] at hstats
    cases hstats
  | span text interior after hopen hclose ih =>
    obtain ⟨earlier, heq, hearlier⟩ := exists_earlier_lookups hclose text start previous'
    rw [heq, List.mem_append] at hlookup
    rw [spansFrom_span hopen hclose, List.mem_append] at hstats
    have hlength : (text ++ statsMark ++ (interior ++ closingMark)).length =
        text.length + statsMark.length + interior.length + closingMark.length := by
      simp only [List.length_append, Nat.add_assoc]
    rcases hstats with hstats | hstats <;> rcases hlookup with hlookup | hlookup
    · obtain rfl := eq_of_mem_firstSpan hstats
      exact Or.inr (hearlier lookup hlookup)
    · obtain rfl := eq_of_mem_firstSpan hstats
      have hle := start_le_of_mem hlookup
      left
      simp only [Span.stop]
      omega
    · -- later statistics start behind these, where an earlier lookup has ended
      have hle := start_le_of_mem hstats
      right
      left
      rcases hearlier lookup hlookup with hend | hencloses
      · omega
      · have hstop := hencloses.stop_eq
        simp only [Span.stop] at hstop ⊢
        omega
    · exact ih hstats hlookup

/-- **Main theorem.** The extracted spans of statistics and lookups stand in the message where they
    say, and one of each has a character in common exactly when the lookup encloses the statistics:
    it is opened before their mark, with no closing mark between, and ends with the same closing
    mark. -/
theorem shares_iff_encloses {message : String} {stats lookup : Span}
    (hstats : stats ∈ statsSpans message)
    (hlookup : lookup ∈ lookupSpans message) :
    stats.StandsIn statsMark 0 message.toList ∧ lookup.StandsIn lookupMark 0 message.toList ∧
      ((∃ place, stats.Covers statsMark place ∧ lookup.Covers lookupMark place) ↔
        lookup.Encloses stats) := by
  refine ⟨standsIn_of_mem hstats, standsIn_of_mem hlookup, ?_, ?_⟩
  · rintro ⟨place, ⟨hfrom, hto⟩, hfrom', hto'⟩
    rcases apart_or_encloses hstats hlookup with hapart | hapart | hencloses
    · omega
    · omega
    · exact hencloses
  · intro h
    have hstop := h.stop_eq
    obtain ⟨between, -, hstart, -⟩ := h
    refine ⟨stats.start, ⟨Nat.le_refl _, ?_⟩, ?_, ?_⟩
    · simp only [Span.stop, statsMark, List.length_cons]
      omega
    · omega
    · rw [hstop]
      simp only [Span.stop, statsMark, List.length_cons]
      omega

/-- Statistics, a lookup that is open when further statistics start, and a lookup of its own. -/
def bracketedMessage : String := "#[[a]] [[ #[[b]] [[c]]"

theorem shares_iff_encloses_bracketed :
    (⟨10, ['b']⟩ : Span) ∈ statsSpans bracketedMessage ∧
    (⟨7, " #[[b".toList⟩ : Span) ∈ lookupSpans bracketedMessage ∧
    (⟨17, ['c']⟩ : Span) ∈ lookupSpans bracketedMessage ∧
    (∃ place, (⟨10, ['b']⟩ : Span).Covers statsMark place ∧
      (⟨7, " #[[b".toList⟩ : Span).Covers lookupMark place) ∧
    ¬ ∃ place, (⟨10, ['b']⟩ : Span).Covers statsMark place ∧
      (⟨17, ['c']⟩ : Span).Covers lookupMark place := by
  have hstats : statsSpans bracketedMessage = [⟨0, ['a']⟩, ⟨10, ['b']⟩] := by cbv
  have hlookups : lookupSpans bracketedMessage = [⟨7, " #[[b".toList⟩, ⟨17, ['c']⟩] := by cbv
  have hb : (⟨10, ['b']⟩ : Span) ∈ statsSpans bracketedMessage := by simp [hstats]
  have hopen : (⟨7, " #[[b".toList⟩ : Span) ∈ lookupSpans bracketedMessage := by simp [hlookups]
  have hc : (⟨17, ['c']⟩ : Span) ∈ lookupSpans bracketedMessage := by simp [hlookups]
  refine ⟨hb, hopen, hc, ?_, ?_⟩
  · exact (shares_iff_encloses hb hopen).2.2.mpr ⟨[' '], rfl, rfl, by decide⟩
  · intro hshares
    obtain ⟨between, hinterior, -⟩ := (shares_iff_encloses hb hc).2.2.mp hshares
    have hlength := congrArg List.length hinterior
    simp [statsMark] at hlength

/-- A lookup that is open when statistics start takes in their text, so that both are extracted. -/
theorem shares_where_lookup_open :
    ∃ stats ∈ statsSpans "[[ #[[x]]", ∃ lookup ∈ lookupSpans "[[ #[[x]]", ∃ place,
      stats.Covers statsMark place ∧ lookup.Covers lookupMark place := by
  have hstats : statsSpans "[[ #[[x]]" = [⟨3, ['x']⟩] := by cbv
  have hlookups : lookupSpans "[[ #[[x]]" = [⟨0, " #[[x".toList⟩] := by cbv
  refine ⟨⟨3, ['x']⟩, by simp [hstats], ⟨0, " #[[x".toList⟩, by simp [hlookups], 3, ?_, ?_⟩
  · exact ⟨by decide, by decide⟩
  · exact ⟨by decide, by decide⟩

end CardCensus.Message
