import CardCensus.Proofs.Message.Spans

/-!
# The one reading of a message

A message is read as texts with spans behind them and a text that follows the last span. In a
reading each opening mark is the first of what remains, each closing mark is the first behind its
opening mark, and no span is left in the last text. Every message has one reading, and its
statistics are the interiors of this reading.

Results:
* `exists_reading`, `IsReading.unique`: every message has one reading.
* `interiors_assembled`: the spans that a reading has, where all are accepted.
* `isReading_of_isPlain`: parts without marks of their own are read as they were put together.
* `stats_of_reading`: all of this for the statistics of a message.
-/

namespace CardCensus.Message

open Text (IsFirst)

/-- A text with a span behind it. -/
structure Segment where
  text : List Char
  interior : List Char
  deriving Repr, DecidableEq

/-- Segments, and the text behind the last of them. -/
structure Layout where
  segments : List Segment
  rest : List Char
  deriving Repr, DecidableEq

/-- The text that segments and a rest make up. -/
def assembled (opening : List Char) : List Segment → List Char → List Char
  | [], rest => rest
  | segment :: segments, rest =>
    segment.text ++ opening ++ (segment.interior ++ closingMark ++ assembled opening segments rest)

/-- Each opening mark is the first of what remains, each closing mark the first behind its opening
    mark, and the rest holds no span. -/
def IsReading (opening : List Char) : List Segment → List Char → Prop
  | [], rest => ¬ HoldsSpan opening rest
  | segment :: segments, rest =>
    IsFirst opening segment.text
      (segment.interior ++ closingMark ++ assembled opening segments rest) ∧
      IsFirst closingMark segment.interior (assembled opening segments rest) ∧
      IsReading opening segments rest

namespace Layout

/-- The layout is a reading of the text. -/
structure Reads (opening s : List Char) (layout : Layout) : Prop where
  whole : assembled opening layout.segments layout.rest = s
  exact : IsReading opening layout.segments layout.rest

/-- What stands between the marks. -/
def interiors (layout : Layout) : List String :=
  layout.segments.map fun segment => String.ofList segment.interior

end Layout

variable {opening : List Char} {segments : List Segment} {rest : List Char}

/-! ## Existence and uniqueness -/

/-- Every text has a reading. -/
theorem exists_reading (opening s : List Char) : ∃ layout : Layout, layout.Reads opening s := by
  induction s using span_induction opening with
  | none s hnone => exact ⟨⟨[], s⟩, rfl, hnone⟩
  | span text interior after hopen hclose ih =>
    obtain ⟨⟨segments, rest⟩, rfl, hreading⟩ := ih
    exact ⟨⟨⟨text, interior⟩ :: segments, rest⟩, rfl, hopen, hclose, hreading⟩

theorem holdsSpan_assembled_cons (opening : List Char) (segment : Segment) (segments : List Segment)
    (rest : List Char) : HoldsSpan opening (assembled opening (segment :: segments) rest) :=
  ⟨segment.text, segment.interior, assembled opening segments rest, rfl⟩

/-- No text has two readings. -/
theorem IsReading.unique {others : List Segment} {last : List Char}
    (h : IsReading opening segments rest)
    (h' : IsReading opening others last)
    (heq : assembled opening segments rest = assembled opening others last) :
    segments = others ∧ rest = last := by
  induction segments generalizing others with
  | nil =>
    cases others with
    | nil => exact ⟨rfl, heq⟩
    | cons other others =>
      rw [IsReading, show rest = assembled opening (other :: others) last from heq] at h
      exact absurd (holdsSpan_assembled_cons opening other others last) h
  | cons segment segments ih =>
    cases others with
    | nil =>
      rw [IsReading, ← show assembled opening (segment :: segments) rest = last from heq] at h'
      exact absurd (holdsSpan_assembled_cons opening segment segments rest) h'
    | cons other others =>
      obtain ⟨hopen, hclose, hrest⟩ := h
      obtain ⟨hopen', hclose', hrest'⟩ := h'
      obtain ⟨htext, hinside⟩ := hopen.unique hopen' heq
      obtain ⟨hinterior, hbehind⟩ := hclose.unique hclose' hinside
      obtain ⟨rfl, hlast⟩ := ih hrest hrest' hbehind
      refine ⟨?_, hlast⟩
      cases segment
      cases other
      subst htext hinterior
      rfl

/-! ## The spans of a reading -/

/-- Where every opening mark is accepted, the spans of a text are those of its reading. -/
theorem interiors_assembled (h : IsReading opening segments rest) (start : Nat)
    (previous : Option Char) :
    (spansFrom opening acceptsAnywhere start previous (assembled opening segments rest)).map
      Span.interior =
      segments.map Segment.interior := by
  induction segments generalizing start previous with
  | nil =>
    rw [assembled, spansFrom_of_not_holdsSpan h]
    rfl
  | cons segment segments ih =>
    obtain ⟨hopen, hclose, hrest⟩ := h
    rw [assembled, spansFrom_span hopen hclose, List.map_append, ih hrest]
    rfl

theorem stats_eq_interiors {message : String} {layout : Layout}
    (h : layout.Reads statsMark message.toList) :
    stats message = layout.interiors := by
  have hinteriors := interiors_assembled h.exact 0 none
  rw [h.whole] at hinteriors
  simpa [stats, statsSpans, Layout.interiors, Function.comp_def] using congrArg
    (List.map String.ofList) hinteriors

/-! ## Parts without marks of their own -/

/-- The text has no opening mark of statistics; the interior has no closing mark and does not end
    within one. -/
structure Segment.IsPlain (segment : Segment) : Prop where
  text : ¬ statsMark <:+: segment.text
  interior : ¬ closingMark <:+: segment.interior
  last : segment.interior.getLast? ≠ some ']'

instance (segment : Segment) : Decidable segment.IsPlain :=
  decidable_of_iff (¬ statsMark <:+: segment.text ∧ ¬ closingMark <:+: segment.interior ∧
      segment.interior.getLast? ≠ some ']')
    ⟨fun ⟨text, interior, last⟩ => ⟨text, interior, last⟩, fun h => ⟨h.text, h.interior, h.last⟩⟩

/-- Parts without marks of their own are read as they were put together. -/
theorem isReading_of_isPlain (h : ∀ segment ∈ segments, segment.IsPlain)
    (hrest : ¬ HoldsSpan statsMark rest) :
    IsReading statsMark segments rest := by
  induction segments with
  | nil => exact hrest
  | cons segment segments ih =>
    rw [List.forall_mem_cons] at h
    exact ⟨isFirst_statsMark h.1.text, isFirst_closingMark h.1.interior h.1.last, ih h.2⟩

/-! ## Main theorem -/

/-- **Main theorem.** Every message has one reading, and its statistics are the interiors of this
    reading. An opening mark with a closing mark behind it always lies in a span, so an open mark at
    the end hides none. Parts without marks of their own, put together with a rest that holds no
    span, give back exactly their interiors. -/
theorem stats_of_reading :
    (∀ message : String,
      (∃! layout : Layout, layout.Reads statsMark message.toList) ∧
      (∀ layout : Layout, layout.Reads statsMark message.toList →
        stats message = layout.interiors) ∧
      ∀ before interior after, message.toList = before ++ statsMark ++
        (interior ++ closingMark ++ after) →
        ∃ span ∈ statsSpans message, span.StandsIn statsMark 0 message.toList ∧
          span.start ≤ before.length ∧ before.length < span.stop statsMark) ∧
    ∀ layout : Layout, (∀ segment ∈ layout.segments, segment.IsPlain) →
      ¬ HoldsSpan statsMark layout.rest →
      stats (String.ofList (assembled statsMark layout.segments layout.rest)) =
        layout.interiors := by
  refine ⟨fun message => ⟨?_, fun layout h => stats_eq_interiors h, ?_⟩, ?_⟩
  · obtain ⟨layout, h⟩ := exists_reading statsMark message.toList
    refine ⟨layout, h, fun other hother => ?_⟩
    obtain ⟨hsegments, hrest⟩ := hother.exact.unique h.exact (hother.whole.trans h.whole.symm)
    cases layout
    cases other
    subst hsegments hrest
    rfl
  · intro before interior after hsplit
    obtain ⟨span, hspan, hbefore, hafter⟩ := exists_span_over 0 none hsplit
    rw [Nat.zero_add] at hbefore hafter
    exact ⟨span, hspan, standsIn_of_mem hspan, hbefore, hafter⟩
  · intro layout hplain hrest
    apply stats_eq_interiors
    exact ⟨by rw [String.toList_ofList], isReading_of_isPlain hplain hrest⟩

/-- Brackets that run into each other, an interior with an opening mark, and an open mark at the
    end. -/
def bracketedLayout : Layout where
  segments := [⟨"né ".toList, "type:Land".toList⟩, ⟨"] ".toList, []⟩, ⟨" [".toList, "a#[[b".toList⟩]
  rest := " #[[open".toList

theorem stats_of_reading_bracketed :
    (∀ segment ∈ bracketedLayout.segments, segment.IsPlain) ∧
      ¬ HoldsSpan statsMark bracketedLayout.rest ∧
    stats "né #[[type:Land]]] #[[]] [#[[a#[[b]] #[[open" = ["type:Land", "", "a#[[b"] := by
  have hplain : ∀ segment ∈ bracketedLayout.segments, segment.IsPlain := by decide
  have hopen : Text.cutAt statsMark bracketedLayout.rest = some ([' '], "open".toList) := by cbv
  have hrest : ¬ HoldsSpan statsMark bracketedLayout.rest := not_holdsSpan_of_open hopen (by decide)
  have hwhole : assembled statsMark bracketedLayout.segments bracketedLayout.rest =
      "né #[[type:Land]]] #[[]] [#[[a#[[b]] #[[open".toList := by decide
  have hinteriors : bracketedLayout.interiors = ["type:Land", "", "a#[[b"] := by decide
  have hstats := stats_of_reading.2 bracketedLayout hplain hrest
  rw [hwhole, String.ofList_toList, hinteriors] at hstats
  exact ⟨hplain, hrest, hstats⟩

end CardCensus.Message
