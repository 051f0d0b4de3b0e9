import CardCensus.ManaCost
import CardCensus.Proofs.Text.Split
import Mathlib.Logic.ExistsUnique

/-!
# Costs symbol by symbol

A cost is texts with symbols behind them and a text that follows the last symbol. Every cost has one
such reading, and it is written for the chat by writing each of its symbols in its place. A known
symbol is written without braces and any other one as it stands, so nothing that is written is a
known symbol, and writing it once more changes nothing.

Results:
* `encode_of_holdsNoSymbol`, `encode_symbol`: a text without symbols and a first symbol are written.
* `encode_assembled_of_step`, `encode_assembled_append`: the parts of a cost are written one by one,
  whatever follows them.
* `encode_encode`: a cost that is written already is not changed any more.
* `exists_reads`, `Reads.unique`: every cost has one reading.
* `display_symbol_by_symbol`: all of this for whole costs, and for costs that are put together.
-/

namespace CardCensus.ManaCost

variable {s text inner after rest : List Char}

/-! ## The first symbol -/

/-- A symbol with its braces. -/
def braced (inner : List Char) : List Char :=
  openingBrace :: inner ++ [closingBrace]

/-- There is no opening brace, or none of the closing braces stands behind the first one. -/
def HoldsNoSymbol (s : List Char) : Prop :=
  ∀ before inside, s = before ++ openingBrace :: inside → openingBrace ∉ before →
    closingBrace ∉ inside

theorem holdsNoSymbol_of_plain (h : openingBrace ∉ s) : HoldsNoSymbol s := by
  rintro before inside rfl -
  exact absurd (List.mem_append_right before List.mem_cons_self) h

theorem holdsNoSymbol_of_open (h : closingBrace ∉ s) : HoldsNoSymbol s := by
  rintro before inside rfl - hmem
  exact h (List.mem_append_right before (List.mem_cons_of_mem _ hmem))

/-- A text without an opening brace does not open a symbol for what follows it. -/
theorem HoldsNoSymbol.plain_append (h : HoldsNoSymbol s) (htext : openingBrace ∉ text) :
    HoldsNoSymbol (text ++ s) := by
  intro before inside hsplit hbefore
  rcases List.append_eq_append_iff.mp hsplit with ⟨front, rfl, hs⟩ | ⟨back, hback, hinside⟩
  · exact h front inside hs fun hmem => hbefore (List.mem_append_right text hmem)
  · cases back with
    | nil => exact h [] inside hinside.symm (List.not_mem_nil)
    | cons c back =>
      obtain ⟨rfl, -⟩ := List.cons.inj hinside
      exact absurd (hback ▸ List.mem_append_right before List.mem_cons_self) htext

/-- Every text is without a symbol, or it has a first symbol with another text behind it. -/
theorem symbol_induction {motive : List Char → Prop} (none : ∀ s, HoldsNoSymbol s → motive s)
    (symbol : ∀ text inner after, openingBrace ∉ text → closingBrace ∉ inner → motive after →
      motive (text ++ (braced inner ++ after)))
    (s : List Char) : motive s := by
  by_cases hopen : openingBrace ∈ s
  · obtain ⟨text, inside, hs, htext⟩ := List.eq_append_cons_of_mem hopen
    by_cases hclose : closingBrace ∈ inside
    · obtain ⟨inner, after, hinside, hinner⟩ := List.eq_append_cons_of_mem hclose
      have hwhole : s = text ++ (braced inner ++ after) := by simp [hs, hinside, braced]
      rw [hwhole]
      exact symbol text inner after htext hinner (symbol_induction none symbol after)
    · refine none s fun before behind hsplit hbefore => ?_
      obtain ⟨-, rfl⟩ := Text.eq_of_append_cons_eq (hs.symm.trans hsplit) htext hbefore
      exact hclose
  · exact none s (holdsNoSymbol_of_plain hopen)
termination_by s.length
decreasing_by
  have hlength := congrArg List.length hwhole
  simp only [braced, List.length_append, List.length_cons] at hlength
  omega

theorem encode_of_holdsNoSymbol (h : HoldsNoSymbol s) : encode s = s := by
  rw [encode]
  split
  · rfl
  · rename_i before inside hopen
    split
    · rfl
    · rename_i inner after hclose
      have hinside : closingBrace ∉ inside :=
        h before inside (Text.cutAtChar_eq_some hopen) (Text.notMem_of_cutAtChar hopen)
      rw [Text.cutAtChar_eq_none hinside] at hclose
      cases hclose

theorem encode_symbol (htext : openingBrace ∉ text) (hinner : closingBrace ∉ inner) :
    encode (text ++ (braced inner ++ after)) = text ++ writeSymbol inner ++ encode after := by
  have hwhole :
      text ++ (braced inner ++ after) = text ++ openingBrace ::
        (inner ++ closingBrace :: after) := by
    simp [braced]
  rw [hwhole, encode]
  split
  · rename_i hopen
    rw [Text.cutAtChar_append_cons htext] at hopen
    cases hopen
  · rename_i before inside hopen
    rw [Text.cutAtChar_append_cons htext] at hopen
    obtain ⟨rfl, rfl⟩ := Prod.mk.inj (Option.some.inj hopen)
    split
    · rename_i hclose
      rw [Text.cutAtChar_append_cons hinner] at hclose
      cases hclose
    · rename_i front back hclose
      rw [Text.cutAtChar_append_cons hinner] at hclose
      obtain ⟨rfl, rfl⟩ := Prod.mk.inj (Option.some.inj hclose)
      rfl

/-- A text without an opening brace is written as it stands. -/
theorem encode_plain_append (h : openingBrace ∉ text) (s : List Char) :
    encode (text ++ s) = text ++ encode s := by
  induction s using symbol_induction with
  | none s hs => rw [encode_of_holdsNoSymbol (hs.plain_append h), encode_of_holdsNoSymbol hs]
  | symbol front inner after hfront hinner _ =>
    have hboth : openingBrace ∉ text ++ front := fun hmem => (List.mem_append.mp hmem).elim h hfront
    rw [← List.append_assoc, encode_symbol hboth hinner, encode_symbol hfront hinner]
    simp only [List.append_assoc]

/-! ## Symbols and their codes -/

/-- A known symbol is written as its code between colons. -/
theorem writeSymbol_of_mem {symbol code : String} (h : (symbol, code) ∈ codes) :
    writeSymbol symbol.toList = ':' :: code.toList ++ [':'] := by
  have hall : ∀ entry ∈ codes, writeSymbol entry.1.toList = ':' :: entry.2.toList ++ [':'] := by
    decide
  exact hall (symbol, code) h

/-- Any other symbol is written as it stands. -/
theorem writeSymbol_of_unknown (h : ∀ entry ∈ codes, entry.1.toList ≠ inner) :
    writeSymbol inner = braced inner := by
  rw [writeSymbol]
  split
  · rename_i symbol code hfind
    have heq : symbol.toList = inner := by simpa using List.find?_some hfind
    exact absurd heq (h (symbol, code) (List.mem_of_find?_eq_some hfind))
  · rfl

/-- What a symbol is written as opens no brace, unless it is the symbol itself. -/
theorem writeSymbol_cases (inner : List Char) :
    openingBrace ∉ writeSymbol inner ∨ writeSymbol inner = braced inner := by
  by_cases h : ∃ entry ∈ codes, entry.1.toList = inner
  · obtain ⟨⟨symbol, code⟩, hentry, rfl⟩ := h
    have hplain : ∀ entry ∈ codes, openingBrace ∉ ':' :: entry.2.toList ++ [':'] := by decide
    exact Or.inl (writeSymbol_of_mem hentry ▸ hplain _ hentry)
  · exact Or.inr (writeSymbol_of_unknown fun entry hentry heq => h ⟨entry, hentry, heq⟩)

/-- What a symbol is written as is written as it stands. -/
theorem encode_writeSymbol_append (h : closingBrace ∉ inner) (s : List Char) :
    encode (writeSymbol inner ++ s) = writeSymbol inner ++ encode s := by
  rcases writeSymbol_cases inner with hplain | hself
  · exact encode_plain_append hplain s
  · have hsymbol : encode ([] ++ (braced inner ++ s)) = [] ++ writeSymbol inner ++ encode s :=
      encode_symbol List.not_mem_nil h
    rw [hself] at hsymbol ⊢
    exact hsymbol

/-! ## Readings -/

/-- A text with a symbol behind it, given by what stands between its braces. -/
structure Segment where
  text : List Char
  inner : List Char
  deriving Repr, DecidableEq

/-- The text has no opening brace, and the symbol ends with its first closing brace. -/
structure Segment.IsExact (segment : Segment) : Prop where
  text : openingBrace ∉ segment.text
  inner : closingBrace ∉ segment.inner

instance (segment : Segment) : Decidable segment.IsExact :=
  decidable_of_iff (openingBrace ∉ segment.text ∧ closingBrace ∉ segment.inner)
    ⟨fun ⟨text, inner⟩ => ⟨text, inner⟩, fun h => ⟨h.text, h.inner⟩⟩

/-- Segments, and the text behind the last of them. -/
structure Layout where
  segments : List Segment
  rest : List Char
  deriving Repr, DecidableEq

/-- The segments as one text, each symbol written in the given way. -/
def assembled (write : List Char → List Char) (segments : List Segment) : List Char :=
  segments.flatMap fun segment => segment.text ++ write segment.inner

/-- The layout as one text, each symbol written in the given way. -/
def Layout.written (write : List Char → List Char) (layout : Layout) : List Char :=
  assembled write layout.segments ++ layout.rest

/-- The layout is a reading of the cost. -/
structure Layout.Reads (cost : List Char) (layout : Layout) : Prop where
  whole : layout.written braced = cost
  segments : ∀ segment ∈ layout.segments, segment.IsExact
  rest : HoldsNoSymbol layout.rest

variable {segments : List Segment} {layout other : Layout} {cost : List Char}

theorem assembled_cons (write : List Char → List Char) (segment : Segment)
    (segments : List Segment) :
    assembled write (segment :: segments) = segment.text ++ write segment.inner ++
      assembled write segments :=
  List.flatMap_cons

theorem exists_reads (cost : List Char) : ∃ layout : Layout, layout.Reads cost := by
  induction cost using symbol_induction with
  | none s h => exact ⟨⟨[], s⟩, rfl, fun _ hsegment => absurd hsegment List.not_mem_nil, h⟩
  | symbol text inner after htext hinner ih =>
    obtain ⟨⟨segments, rest⟩, rfl, hsegments, hrest⟩ := ih
    refine ⟨⟨⟨text, inner⟩ :: segments, rest⟩, ?_,
      List.forall_mem_cons.mpr ⟨⟨htext, hinner⟩, hsegments⟩, hrest⟩
    simp only [Layout.written, assembled_cons, List.append_assoc]

theorem assembled_braced_cons (segment : Segment) (segments : List Segment) (rest : List Char) :
    assembled braced (segment :: segments) ++ rest =
      segment.text ++ openingBrace ::
        (segment.inner ++ closingBrace :: (assembled braced segments ++ rest)) := by
  simp [assembled_cons, braced]

/-- No segments make up a text without a symbol, unless there are none. -/
theorem not_holdsNoSymbol_assembled {segment : Segment} (h : segment.IsExact)
    (segments : List Segment)
    (rest : List Char) : ¬ HoldsNoSymbol (assembled braced (segment :: segments) ++ rest) :=
  fun hnone =>
  hnone segment.text _ (assembled_braced_cons segment segments rest) h.text
    (List.mem_append_right segment.inner List.mem_cons_self)

/-- Segments and a rest are found again in the text that they make up. -/
theorem eq_of_assembled_eq {others : List Segment} {last : List Char}
    (h : ∀ segment ∈ segments, segment.IsExact)
    (hrest : HoldsNoSymbol rest) (h' : ∀ segment ∈ others, segment.IsExact)
    (hlast : HoldsNoSymbol last)
    (heq : assembled braced segments ++ rest = assembled braced others ++ last) :
    segments = others ∧ rest = last := by
  induction segments generalizing others with
  | nil =>
    cases others with
    | nil => exact ⟨rfl, heq⟩
    | cons other others =>
      rw [List.forall_mem_cons] at h'
      exact absurd (heq ▸ hrest) (not_holdsNoSymbol_assembled h'.1 others last)
  | cons segment segments ih =>
    rw [List.forall_mem_cons] at h
    cases others with
    | nil => exact absurd (heq ▸ hlast) (not_holdsNoSymbol_assembled h.1 segments rest)
    | cons other others =>
      rw [List.forall_mem_cons] at h'
      rw [assembled_braced_cons, assembled_braced_cons] at heq
      obtain ⟨htext, hinside⟩ := Text.eq_of_append_cons_eq heq h.1.text h'.1.text
      obtain ⟨hinner, hafter⟩ := Text.eq_of_append_cons_eq hinside h.1.inner h'.1.inner
      obtain ⟨rfl, rfl⟩ := ih h.2 h'.2 hafter
      obtain ⟨text, inner⟩ := segment
      obtain ⟨text', inner'⟩ := other
      obtain rfl : text = text' := htext
      obtain rfl : inner = inner' := hinner
      exact ⟨rfl, rfl⟩

/-- No cost has two readings. -/
theorem Layout.Reads.unique (h : layout.Reads cost) (h' : other.Reads cost) : layout = other := by
  obtain ⟨hsegments, hrest⟩ :=
    eq_of_assembled_eq h.segments h.rest h'.segments h'.rest (h.whole.trans h'.whole.symm)
  cases layout
  cases other
  subst hsegments hrest
  rfl

/-- **Run.** What each segment is written as, the segments together are written as, whatever follows
    them. -/
theorem encode_assembled_of_step {write written : List Char → List Char}
    (hstep : ∀ segment : Segment, segment.IsExact → ∀ s,
      encode (segment.text ++ (write segment.inner ++ s)) = segment.text ++ written segment.inner ++
        encode s)
    (h : ∀ segment ∈ segments, segment.IsExact) (s : List Char) :
    encode (assembled write segments ++ s) = assembled written segments ++ encode s := by
  induction segments with
  | nil => rfl
  | cons segment segments ih =>
    rw [List.forall_mem_cons] at h
    rw [assembled_cons, assembled_cons, List.append_assoc, List.append_assoc, hstep segment h.1,
      ih h.2]
    simp only [List.append_assoc]

/-- The segments of a cost are written one by one. -/
theorem encode_assembled_append (h : ∀ segment ∈ segments, segment.IsExact) (s : List Char) :
    encode (assembled braced segments ++ s) = assembled writeSymbol segments ++ encode s :=
  encode_assembled_of_step (fun _ hsegment _ => encode_symbol hsegment.text hsegment.inner) h s

/-- What they are written as is written as it stands. -/
theorem encode_assembled_writeSymbol_append (h : ∀ segment ∈ segments, segment.IsExact)
    (s : List Char) :
    encode (assembled writeSymbol segments ++ s) = assembled writeSymbol segments ++ encode s := by
  refine encode_assembled_of_step (fun segment hsegment s => ?_) h s
  rw [encode_plain_append hsegment.text, encode_writeSymbol_append hsegment.inner,
    List.append_assoc]

theorem Layout.Reads.encode_eq (h : layout.Reads cost) :
    encode cost = layout.written writeSymbol := by
  rw [← h.whole, Layout.written, encode_assembled_append h.segments, encode_of_holdsNoSymbol h.rest,
    Layout.written]

/-- What is written is written as it stands. -/
theorem encode_encode (cost : List Char) : encode (encode cost) = encode cost := by
  obtain ⟨layout, h⟩ := exists_reads cost
  rw [h.encode_eq, Layout.written, encode_assembled_writeSymbol_append h.segments,
    encode_of_holdsNoSymbol h.rest]

/-- A cost with no brace left open is written on its own, whatever follows it. -/
theorem Layout.Reads.encode_append (h : layout.Reads cost) (hrest : openingBrace ∉ layout.rest)
    (s : List Char) :
    encode (cost ++ s) = encode cost ++ encode s := by
  rw [h.encode_eq, Layout.written, ← h.whole, Layout.written, List.append_assoc,
    encode_assembled_append h.segments,
    encode_plain_append hrest, List.append_assoc]

/-! ## Main theorem -/

/-- **Main theorem.** Every cost has one reading and is written symbol by symbol: a known symbol as
    its code between colons, any other as it stands, and everything else as it stands. Writing twice
    is writing once, and two costs that are put together are written one by one if the first has no
    opening brace behind its symbols. -/
theorem display_symbol_by_symbol :
    (∀ cost : String,
      (∃! layout : Layout, layout.Reads cost.toList) ∧
      (∀ layout : Layout, layout.Reads cost.toList →
        display cost = String.ofList (layout.written writeSymbol)) ∧
      display (display cost) = display cost) ∧
    (∀ symbol code, (symbol, code) ∈ codes →
      writeSymbol symbol.toList = ':' :: code.toList ++ [':']) ∧
    (∀ inner, (∀ entry ∈ codes, entry.1.toList ≠ inner) → writeSymbol inner = braced inner) ∧
    ∀ (a b : String) (layout : Layout), layout.Reads a.toList → openingBrace ∉ layout.rest →
      display (a ++ b) = display a ++ display b := by
  refine ⟨fun cost => ⟨?_, fun layout h => congrArg String.ofList h.encode_eq, ?_⟩,
    fun _ _ => writeSymbol_of_mem,
    fun _ => writeSymbol_of_unknown, fun a b layout h hrest => ?_⟩
  · obtain ⟨layout, h⟩ := exists_reads cost.toList
    exact ⟨layout, h, fun other hother => hother.unique h⟩
  · rw [display, display, String.toList_ofList, encode_encode]
  · rw [display, String.toList_append, h.encode_append hrest, String.ofList_append, display,
      display]

/-- A known symbol, an unknown one, one with a brace inside, and a brace that stays open. -/
def motleyLayout : Layout where
  segments := [⟨"né ".toList, ['2']⟩, ⟨[closingBrace], ['C']⟩, ⟨[], [openingBrace, 'W']⟩]
  rest := [openingBrace, '1']

/-- A known symbol with a closing brace behind it. -/
def closedLayout : Layout where
  segments := [⟨[], ['1']⟩]
  rest := [' ', closingBrace]

theorem display_symbol_by_symbol_motley :
    motleyLayout.Reads "né \x7b2\x7d\x7d\x7bC\x7d\x7b\x7bW\x7d\x7b1".toList ∧
    display "né \x7b2\x7d\x7d\x7bC\x7d\x7b\x7bW\x7d\x7b1" =
      "né :2:\x7d\x7bC\x7d\x7b\x7bW\x7d\x7b1" ∧
    writeSymbol "W/U".toList = ":wu:".toList ∧ writeSymbol ['C'] = braced ['C'] ∧
    closedLayout.Reads "\x7b1\x7d \x7d".toList ∧ openingBrace ∉ closedLayout.rest ∧
    display ("\x7b1\x7d \x7d" ++ "\x7bW\x7d") = display "\x7b1\x7d \x7d" ++
      display "\x7bW\x7d" := by
  obtain ⟨hcost, hknown, hunknown, happend⟩ := display_symbol_by_symbol
  have hmotley : motleyLayout.Reads "né \x7b2\x7d\x7d\x7bC\x7d\x7b\x7bW\x7d\x7b1".toList :=
    ⟨by decide, by decide, holdsNoSymbol_of_open (by decide)⟩
  have hclosed : closedLayout.Reads "\x7b1\x7d \x7d".toList :=
    ⟨by decide, by decide, holdsNoSymbol_of_plain (by decide)⟩
  have hrest : openingBrace ∉ closedLayout.rest := by decide
  have hdisplay := (hcost _).2.1 motleyLayout hmotley
  rw [show String.ofList (motleyLayout.written writeSymbol) =
    "né :2:\x7d\x7bC\x7d\x7b\x7bW\x7d\x7b1" from by decide] at hdisplay
  exact ⟨hmotley, hdisplay, hknown "W/U" "wu" (by decide), hunknown ['C'] (by decide), hclosed,
    hrest,
    happend _ _ closedLayout hclosed hrest⟩

end CardCensus.ManaCost
