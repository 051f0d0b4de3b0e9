import CardCensus.Proofs.Query.Clauses
import CardCensus.Proofs.Query.Folding
import CardCensus.Proofs.Text.Spacing
import Mathlib.Logic.Relation

/-!
# Blanks around the separators of a match text

Parts of a match text are trimmed where they are read, so blanks can be added at the ends of a
clause and around its separators. Behind the mark of a negated term nothing is trimmed by the
reader; there it is up to the field whether blanks belong to the term. Clauses are compared by what
they are to a plan: the known field with its terms, where terms of a field that trims them itself
are tidied.

Results:
* `values_bar`, `values_blanks_append`, `values_append_blanks`: the values of a clause with further
  blanks.
* `map_tidy_values_mark`: the tidied values of a clause with blanks behind a mark.
* `effect?_read_gap`: one place in a clause.
* `effects_eq_of_spaced`: any number of places in a match text.
* `Query.known_foldl_addTo`: the filters of a match text are made of the effects of its clauses.
-/

namespace CardCensus

/-! ## Terms -/

/-- The term without blanks around what it negates. -/
def Negation.tidy (term : String) : String :=
  match negated? term with
  | none => term
  | some rest => String.ofList (mark :: Text.trim rest.toList)

theorem Negation.tidy_mark (rest : List Char) :
    tidy (String.ofList (mark :: rest)) = String.ofList (mark :: Text.trim rest) := by
  simp [tidy, negated?]

namespace Field

/-- Blanks behind the mark make no difference to the field. -/
def isLoose : Field → Bool
  | name | set | subtype => false
  | color | colorIdentity | supertype | type | rarity | unknown _ => true

/-- The term without the blanks that make no difference to the field. -/
def tidy (field : Field) (term : String) : String :=
  if field.isLoose then Negation.tidy term else term

/-- No field is called by a word with a bar in it. -/
theorem isKnown_ofWord_of_bar {word : String} (h : Clause.valueSeparator ∈ word.toList) :
    (ofWord word).isKnown = false := by
  have hnone : words.find? (fun entry => entry.1.toList == Text.fold word.toList) = none := by
    have hplain : ∀ entry ∈ words, Clause.valueSeparator ∉ entry.1.toList := by decide
    rw [List.find?_eq_none]
    intro entry hentry heq
    have hbar : Clause.valueSeparator ∈ Text.fold word.toList := List.mem_map.mpr ⟨_, h, by decide⟩
    rw [← beq_iff_eq.mp heq] at hbar
    exact hplain entry hentry hbar
  rw [ofWord, hnone]
  rfl

end Field

namespace Clause

/-! ## Values -/

variable {blanks : List Char}

theorem ne_bar_of_notMem {s : List Char} (h : valueSeparator ∉ s) :
    ∀ c ∈ s, (c == valueSeparator) = false :=
  fun _ hc => beq_eq_false_iff_ne.mpr fun heq => h (heq ▸ hc)

theorem values_bar (before after : List Char) :
    values (before ++ valueSeparator :: after) = values before ++ values after := by
  have hpieces :=
    @Text.pieces_append (· == valueSeparator) valueSeparator (beq_self_eq_true valueSeparator)
      before after
  rw [values, hpieces, List.map_append, values, values]

theorem values_blanks_append (h : Text.isBlankText blanks = true) (s : List Char) :
    values (blanks ++ s) = values s := by
  obtain ⟨first, others, hs⟩ :=
    List.exists_cons_of_ne_nil (Text.pieces_ne_nil (· == valueSeparator) s)
  have hplain := ne_bar_of_notMem (Text.notMem_of_isBlankText h (by decide))
  rw [values, Text.pieces_plain_append hplain hs, List.map_cons, Text.trim_blanks_append h, values,
    hs, List.map_cons]

theorem values_append_blanks (h : Text.isBlankText blanks = true) (s : List Char) :
    values (s ++ blanks) = values s := by
  have hplain := ne_bar_of_notMem (Text.notMem_of_isBlankText h (by decide))
  obtain ⟨others, last, hs, happend⟩ := Text.pieces_append_plain hplain s
  rw [values, happend, List.map_append, List.map_singleton, Text.trim_append_blanks h, values, hs,
    List.map_append,
    List.map_singleton]

/-- The tidied values of a clause do not see blanks behind a mark. -/
theorem map_tidy_values_mark {lead : List Char} (hlead : Text.isBlankText lead = true)
    (h : Text.isBlankText blanks = true) (after : List Char) :
    (values (lead ++ Negation.mark :: (blanks ++ after))).map Negation.tidy =
      (values (lead ++ Negation.mark :: after)).map Negation.tidy := by
  have hvalues : ∀ {s first : List Char} {others : List (List Char)},
      Text.pieces (· == valueSeparator) s = first :: others →
        (values (lead ++ Negation.mark :: s)).map Negation.tidy =
          String.ofList (Negation.mark :: Text.trim first) ::
            (others.map fun value => String.ofList (Text.trim value)).map Negation.tidy := by
    intro s first others hs
    have hmark : ∀ c ∈ lead ++ [Negation.mark], (c == valueSeparator) = false := by
      apply ne_bar_of_notMem
      rw [List.mem_append, not_or]
      exact ⟨Text.notMem_of_isBlankText hlead (by decide), by decide⟩
    have hpieces := Text.pieces_plain_append hmark hs
    rw [List.append_assoc, List.append_assoc, List.singleton_append,
      List.singleton_append] at hpieces
    rw [values, hpieces, List.map_cons, List.map_cons, Text.trim_append_mark hlead (by decide),
      Negation.tidy_mark,
      Text.trim_trimEnd]
  obtain ⟨first, others, hs⟩ :=
    List.exists_cons_of_ne_nil (Text.pieces_ne_nil (· == valueSeparator) after)
  have hplain := ne_bar_of_notMem (Text.notMem_of_isBlankText h (by decide))
  rw [hvalues (Text.pieces_plain_append hplain hs), hvalues hs, Text.trim_blanks_append h]

/-! ## Clauses -/

/-- What a clause is to a plan: a known field with its tidied terms, or nothing. -/
def effect? : Clause → Option (Field × List String)
  | filter field terms => if field.isKnown then some (field, terms.map field.tidy) else none
  | _ => none

/-- The clause of a word with its values. -/
def ofWord (word : String) (values : List String) : Clause :=
  match Verb.ofWord? word with
  | some verb => request verb (values.filter (· ≠ ""))
  | none => filter (Field.ofWord word) values

theorem read_cut {head : List Char} (h : fieldMark ∉ head) (rest : List Char) :
    read (head ++ fieldMark :: rest) = ofWord (String.ofList (Text.trim head)) (values rest) := by
  rw [read, Text.cutAtChar_append_cons h]
  rfl

theorem effect?_ofWord (word : String) (values : List String) : (ofWord word values).effect? =
    if Verb.ofWord? word = none ∧ (Field.ofWord word).isKnown = true then
      some (Field.ofWord word, values.map (Field.ofWord word).tidy)
    else none := by
  unfold ofWord
  cases Verb.ofWord? word with
  | some verb => rfl
  | none => simp [effect?]

theorem effect?_read_of_notMem {clause : List Char} (h : fieldMark ∉ clause) :
    (read clause).effect? = none := by
  rw [read, Text.cutAtChar_eq_none h]
  rfl

/-- Clauses with the same word and the same tidied values are the same to a plan. -/
theorem effect?_read_congr {head head' rest rest' : List Char} (h : fieldMark ∉ head)
    (h' : fieldMark ∉ head')
    (hword : Text.trim head' = Text.trim head)
    (hvalues : (values rest').map (Field.ofWord (String.ofList (Text.trim head))).tidy =
      (values rest).map (Field.ofWord (String.ofList (Text.trim head))).tidy) :
    (read (head' ++ fieldMark :: rest')).effect? = (read (head ++ fieldMark :: rest)).effect? := by
  rw [read_cut h', read_cut h, hword, effect?_ofWord, effect?_ofWord, hvalues]

/-- A clause with a bar before its first colon is nothing to a plan. -/
theorem effect?_read_of_bar {before : List Char} (h : fieldMark ∉ before) (after : List Char) :
    (read (before ++ valueSeparator :: after)).effect? = none := by
  by_cases hcolon : fieldMark ∈ after
  · obtain ⟨head, rest, rfl, hhead⟩ := List.eq_append_cons_of_mem hcolon
    have hwhole : before ++ valueSeparator :: (head ++ fieldMark :: rest) =
        (before ++ valueSeparator :: head) ++ fieldMark :: rest := by simp
    have hnot : fieldMark ∉ before ++ valueSeparator :: head := by
      rw [List.mem_append, List.mem_cons, not_or, not_or]
      exact ⟨h, by decide, hhead⟩
    have hbar : valueSeparator ∈ Text.trim (before ++ valueSeparator :: head) :=
      Text.mem_trim_of_mem (List.mem_append_right _ List.mem_cons_self) (by decide)
    have hunknown :
        (Field.ofWord (String.ofList (Text.trim (before ++ valueSeparator :: head)))).isKnown =
          false :=
      Field.isKnown_ofWord_of_bar (by rwa [String.toList_ofList])
    rw [hwhole, read_cut hnot, effect?_ofWord, hunknown]
    exact if_neg fun hknown => Bool.false_ne_true hknown.2
  · apply effect?_read_of_notMem
    rw [List.mem_append, List.mem_cons, not_or, not_or]
    exact ⟨h, by decide, hcolon⟩

/-! ## Places for blanks -/

/-- A place in a clause, between the text before it and the text after it: at an end, beside a bar,
    beside the first colon, or behind the mark at the start of a value if the field is one of the
    loose ones. -/
inductive Gap (loose : Field → Bool) : List Char → List Char → Prop
  | start (after : List Char) : Gap loose [] after
  | stop (before : List Char) : Gap loose before []
  | afterBar (before after : List Char) : Gap loose (before ++ [valueSeparator]) after
  | beforeBar (before after : List Char) : Gap loose before (valueSeparator :: after)
  | afterColon {head : List Char} (hfirst : fieldMark ∉ head) (after : List Char) :
    Gap loose (head ++ [fieldMark]) after
  | beforeColon {head : List Char} (hfirst : fieldMark ∉ head) (after : List Char) :
    Gap loose head (fieldMark :: after)
  | afterMark {head values lead : List Char} (hfirst : fieldMark ∉ head)
      (hloose : loose (Field.ofWord (String.ofList (Text.trim head))) = true)
      (hopen : values = [] ∨ ∃ earlier, values = earlier ++ [valueSeparator])
      (hlead : Text.isBlankText lead = true) (after : List Char) :
      Gap loose (head ++ fieldMark :: (values ++ (lead ++ [Negation.mark]))) after

/-- **Step.** Blanks in one place leave a clause what it is to a plan. -/
theorem effect?_read_gap (h : Text.isBlankText blanks = true) {before after : List Char}
    (hgap : Gap Field.isLoose before after) :
    (read (before ++ (blanks ++ after))).effect? = (read (before ++ after)).effect? := by
  have hcolon : fieldMark ∉ blanks := Text.notMem_of_isBlankText h (by decide)
  cases hgap with
  | start =>
    rw [List.nil_append, List.nil_append]
    by_cases hmem : fieldMark ∈ after
    · obtain ⟨head, rest, rfl, hhead⟩ := List.eq_append_cons_of_mem hmem
      rw [← List.append_assoc]
      exact effect?_read_congr hhead (List.not_mem_append hcolon hhead)
        (Text.trim_blanks_append h head) rfl
    · rw [effect?_read_of_notMem (List.not_mem_append hcolon hmem), effect?_read_of_notMem hmem]
  | stop =>
    rw [List.append_nil, List.append_nil]
    by_cases hmem : fieldMark ∈ before
    · obtain ⟨head, rest, rfl, hhead⟩ := List.eq_append_cons_of_mem hmem
      rw [List.append_assoc, List.cons_append]
      exact effect?_read_congr hhead hhead rfl (by rw [values_append_blanks h])
    · rw [effect?_read_of_notMem (List.not_mem_append hmem hcolon), effect?_read_of_notMem hmem]
  | afterBar before =>
    rw [List.append_assoc, List.append_assoc, List.singleton_append, List.singleton_append]
    by_cases hmem : fieldMark ∈ before
    · obtain ⟨head, rest, rfl, hhead⟩ := List.eq_append_cons_of_mem hmem
      rw [List.append_assoc, List.append_assoc, List.cons_append, List.cons_append]
      exact effect?_read_congr hhead hhead rfl
        (by rw [values_bar, values_bar, values_blanks_append h])
    · rw [effect?_read_of_bar hmem, effect?_read_of_bar hmem]
  | beforeBar before after =>
    rw [← List.append_assoc]
    by_cases hmem : fieldMark ∈ before
    · obtain ⟨head, rest, rfl, hhead⟩ := List.eq_append_cons_of_mem hmem
      rw [List.append_assoc, List.append_assoc, List.append_assoc, List.cons_append,
        List.cons_append]
      refine effect?_read_congr hhead hhead rfl ?_
      rw [← List.append_assoc, values_bar, values_bar, values_append_blanks h]
    · rw [effect?_read_of_bar (List.not_mem_append hmem hcolon), effect?_read_of_bar hmem]
  | afterColon hhead =>
    rw [List.append_assoc, List.append_assoc, List.singleton_append, List.singleton_append]
    exact effect?_read_congr hhead hhead rfl (by rw [values_blanks_append h])
  | beforeColon hhead after =>
    rw [← List.append_assoc]
    exact effect?_read_congr hhead (List.not_mem_append hhead hcolon)
      (Text.trim_append_blanks h before) rfl
  | @afterMark head before lead hhead hloose hopen hlead =>
    simp only [List.append_assoc, List.cons_append, List.nil_append]
    refine effect?_read_congr hhead hhead rfl ?_
    have htidy : (Field.ofWord (String.ofList (Text.trim head))).tidy = Negation.tidy := by
      funext term
      rw [Field.tidy, if_pos hloose]
    rw [htidy]
    rcases hopen with rfl | ⟨earlier, rfl⟩
    · exact map_tidy_values_mark hlead h after
    · simp only [List.append_assoc, List.singleton_append, values_bar, List.map_append,
        map_tidy_values_mark hlead h]

theorem isBlankText_gap (h : Text.isBlankText blanks = true) (before after : List Char) :
    Text.isBlankText (before ++ (blanks ++ after)) = Text.isBlankText (before ++ after) := by
  rw [Text.isBlankText] at h ⊢
  rw [List.all_append, List.all_append, h, Bool.true_and, Text.isBlankText, List.all_append]

/-- A part can be exchanged for one that is as blank and has the same effect. -/
theorem filterMap_takeWhile_congr {α β : Type} {p : α → Bool} {f : α → Option β} {a b : α}
    (hp : p a = p b)
    (hf : f a = f b) (earlier later : List α) :
    ((earlier ++ a :: later).takeWhile p).filterMap f =
      ((earlier ++ b :: later).takeWhile p).filterMap f := by
  induction earlier with
  | nil =>
    rw [List.nil_append, List.nil_append, List.takeWhile_cons, List.takeWhile_cons, hp]
    split
    · rw [List.filterMap_cons, List.filterMap_cons, hf]
    · rfl
  | cons first earlier ih =>
    rw [List.cons_append, List.cons_append, List.takeWhile_cons, List.takeWhile_cons]
    split
    · rw [List.filterMap_cons, List.filterMap_cons, ih]
    · rfl

end Clause

/-! ## Match texts with further blanks -/

namespace Match

/-- One text is the other with blanks in one place of one clause. -/
def IsSpaced (loose : Field → Bool) (text other : String) : Prop :=
  ∃ earlier before blanks after later, Clause.parts text = earlier ++ (before ++ after) :: later ∧
    Clause.parts other = earlier ++ (before ++ (blanks ++ after)) :: later ∧
      Text.isBlankText blanks = true ∧
    Clause.Gap loose before after

/-- What the clauses of a text are to a plan. -/
def effects (text : String) : List (Field × List String) :=
  (Clause.readAll text.toList).filterMap Clause.effect?

theorem effects_eq (text : String) : effects text =
    ((Clause.parts text).takeWhile fun part => !Text.isBlankText part).filterMap
      fun part => (Clause.read part).effect? :=
  List.filterMap_map

/-- **Step.** Blanks in one place leave the effects as they are. -/
theorem effects_eq_of_isSpaced {text other : String} (h : IsSpaced Field.isLoose text other) :
    effects other = effects text := by
  obtain ⟨earlier, before, blanks, after, later, htext, hother, hblanks, hgap⟩ := h
  rw [effects_eq, effects_eq, htext, hother]
  apply Clause.filterMap_takeWhile_congr
  · rw [Clause.isBlankText_gap hblanks]
  · exact Clause.effect?_read_gap hblanks hgap

/-- **Run.** Blanks in any number of places do. -/
theorem effects_eq_of_spaced {text other : String}
    (h : Relation.ReflTransGen (IsSpaced Field.isLoose) text other) :
    effects other = effects text := by
  induction h with
  | refl => rfl
  | tail _ hstep ih => rw [effects_eq_of_isSpaced hstep, ih]

end Match

/-! ## The filters of a match text -/

namespace Query

/-- The filters of a match text are made of the effects of its clauses. -/
theorem known_foldl_addTo (clauses : List Clause) (query : Query) :
    (clauses.foldl Clause.addTo query).known.map (mapEntry Field.tidy) =
      (clauses.filterMap Clause.effect?).foldl (fun fields entry => addTo entry.1 entry.2 fields)
        (query.known.map (mapEntry Field.tidy)) := by
  induction clauses generalizing query with
  | nil => rfl
  | cons clause rest ih =>
    rw [List.foldl_cons, ih]
    cases clause with
    | skipped | request => rfl
    | filter field terms =>
      show List.foldl _ ((query.add field terms).known.map (mapEntry Field.tidy)) _ = _
      cases hknown : field.isKnown with
      | true =>
        have heffect : (Clause.filter field terms).effect? = some (field, terms.map field.tidy) :=
          if_pos hknown
        rw [List.filterMap_cons, heffect, known_add_of_isKnown _ hknown, ← addTo_map]
        rfl
      | false =>
        have heffect : (Clause.filter field terms).effect? = none :=
          if_neg (Bool.eq_false_iff.mp hknown)
        rw [List.filterMap_cons, heffect, known_add_of_not_isKnown _ hknown]

end Query

end CardCensus
