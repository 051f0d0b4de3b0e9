import CardCensus.Proofs.Lookup.Expression
import CardCensus.Proofs.Text.Comparison
import CardCensus.Proofs.Text.Spacing

/-!
# The grammar of search expressions

A search expression is a row of strings with blanks between them. A string stands between quotes,
and a quote in it is written twice. The reader of expressions accepts what this grammar allows and
nothing else, and a text has no two readings, so the search expression of a name says its words and
nothing more: no word is taken for an operator of the search, whatever it is made of.

Results:
* `quotedWordsFrom_eq_ok_iff`: the reader accepts the rows of the grammar.
* `expression_eq_nil_iff_isBlankText`: the expression is empty when the name is blank.
* `expression_says_words`: the one reading of the expression of a name.
-/

namespace CardCensus.Lookup

/-! ## The grammar -/

/-- The word is written so between quotes: each of its quotes twice, each other character once. -/
inductive Spells : List Char → List Char → Prop
  | nil : Spells [] []
  | quote {word body : List Char} (h : Spells word body) : Spells ('"' :: word) ('"' :: '"' :: body)
  | letter {word body : List Char} {c : Char} (hc : c ≠ '"') (h : Spells word body) :
    Spells (c :: word) (c :: body)

/-- The text is a row of strings in quotes, which say the words in order, with nothing but blanks
    outside the quotes. A string goes on as long as its quotes are doubled. -/
inductive IsRow : List (List Char) → List Char → Prop
  | nil : IsRow [] []
  | blank {words : List (List Char)} {s : List Char} (h : IsRow words s) : IsRow words (' ' :: s)
  | string {word body : List Char} {words : List (List Char)} {s : List Char}
    (hbody : Spells word body)
      (hend : ∀ tail, s ≠ '"' :: tail) (h : IsRow words s) :
        IsRow (word :: words) ('"' :: (body ++ '"' :: s))

theorem spells_iff {word body : List Char} : Spells word body ↔ body = quoteBody word := by
  constructor
  · intro h
    induction h with
    | nil => rfl
    | quote _ ih =>
      subst ih
      rfl
    | letter hc _ ih => rw [quoteBody_cons hc, ih]
  · rintro rfl
    induction word with
    | nil => exact .nil
    | cons c word ih =>
      by_cases hc : c = '"'
      · subst hc
        exact .quote ih
      · rw [quoteBody_cons hc]
        exact .letter hc ih

/-! ## The reader -/

theorem quotedWordsFrom_of_isRow {words : List (List Char)} {s : List Char} (h : IsRow words s) :
    quotedWordsFrom .outside s = .ok words := by
  induction h with
  | nil => rfl
  | blank _ ih => rw [quotedWordsFrom, if_pos rfl, ih]
  | string hbody hend _ ih =>
    rw [spells_iff.mp hbody, quotedWordsFrom, if_neg (by decide), if_pos rfl,
      quotedWordsFrom_body _ _ hend, ih]
    rfl

/-- What the reader accepts is a row outside the quotes, and inside them the rest of a string with a
    row behind it. -/
def Reading.Accepted (words : List (List Char)) (s : List Char) : Reading → Prop
  | .outside => IsRow words s
  | .inside read => ∃ word body rest others, s = body ++ '"' :: rest ∧ Spells word body ∧
      (∀ tail, rest ≠ '"' :: tail) ∧ words = (read.reverse ++ word) :: others ∧ IsRow others rest

/-- **Step.** A character that the body of a string goes on with. -/
theorem Reading.Accepted.spelled {words : List (List Char)} {read s : List Char} {c : Char}
    (front : List Char)
    (hc : ∀ {word body : List Char}, Spells word body → Spells (c :: word) (front ++ body))
    (h : (Reading.inside (c :: read)).Accepted words s) :
    (Reading.inside read).Accepted words (front ++ s) := by
  obtain ⟨word, body, rest, others, rfl, hbody, hend, rfl, hrow⟩ := h
  refine ⟨c :: word, front ++ body, rest, others, ?_, hc hbody, hend, ?_, hrow⟩
  · rw [List.append_assoc]
  · rw [List.reverse_cons, List.append_assoc, List.singleton_append]

theorem accepted_of_quotedWordsFrom {state : Reading} {s : List Char} {words : List (List Char)}
    (h : quotedWordsFrom state s = .ok words) : state.Accepted words s := by
  induction state, s using quotedWordsFrom.induct generalizing words with
  | case1 =>
    cases h
    exact .nil
  | case2 rest ih =>
    rw [quotedWordsFrom, if_pos rfl] at h
    exact .blank (ih h)
  | case3 rest hne ih =>
    rw [quotedWordsFrom, if_neg hne, if_pos rfl] at h
    obtain ⟨word, body, rest, others, rfl, hbody, hend, rfl, hrow⟩ := ih h
    exact .string hbody hend hrow
  | case4 c rest hblank hquote =>
    rw [quotedWordsFrom, if_neg hblank, if_neg hquote] at h
    cases h
  -- Inside a string a quote is read with the character behind it, so a doubled quote does not end
  -- the string.
  | case5 => cases h
  | case6 read rest ih =>
    rw [quotedWordsFrom] at h
    exact (ih h).spelled ['"', '"'] .quote
  | case7 read rest hend ih =>
    rw [quotedWordsFrom.eq_5 read rest hend] at h
    cases hrest : quotedWordsFrom .outside rest with
    | error => rw [hrest] at h; cases h
    | ok others =>
      rw [hrest] at h
      cases h
      exact ⟨[], [], rest, others, rfl, .nil, hend, by rw [List.append_nil], ih hrest⟩
  | case8 read c rest hpair hquote ih =>
    rw [quotedWordsFrom.eq_6 read c rest hpair hquote] at h
    exact (ih h).spelled [c] (.letter hquote)

/-- The reader accepts the rows of the grammar. -/
theorem quotedWordsFrom_eq_ok_iff {words : List (List Char)} {s : List Char} :
    quotedWordsFrom .outside s = .ok words ↔ IsRow words s :=
  ⟨accepted_of_quotedWordsFrom, quotedWordsFrom_of_isRow⟩

/-- A text has one reading at most. -/
theorem IsRow.unique {words others : List (List Char)} {s : List Char} (h : IsRow words s)
    (h' : IsRow others s) :
    words = others :=
  Except.ok.inj ((quotedWordsFrom_of_isRow h).symm.trans (quotedWordsFrom_of_isRow h'))

/-! ## Names -/

/-- The expression is empty when the name is blank. -/
theorem expression_eq_nil_iff_isBlankText {name : List Char} :
    expression name = [] ↔ Text.isBlankText name = true :=
  expression_eq_nil_iff.trans Text.words_eq_nil_iff

/-- **Main theorem.** The reader takes the expression of a name and gives back the words of the name
    in order. By the grammar as well it is the row of these words and of no others, with blanks
    alone outside the quotes, and it is empty exactly when the name is blank. -/
theorem expression_says_words (name : String) (h : Text.NulFree name) :
    quotedWords (expression name.toList) = .ok (Text.words name.toList) ∧
      (∀ words, IsRow words (expression name.toList) ↔ words = Text.words name.toList) ∧
      (expression name.toList = [] ↔ Text.isBlankText name.toList = true) := by
  have hrow : IsRow (Text.words name.toList) (expression name.toList) := by
    rw [← quotedWordsFrom_eq_ok_iff, expression_eq, quotedWordsFrom_joinWith]
  refine ⟨quotedWords_expression h, fun words => ⟨fun hwords => hwords.unique hrow, ?_⟩,
    expression_eq_nil_iff_isBlankText⟩
  rintro rfl
  exact hrow

/-- Words that are made of quotes alone, that look like operators or that end in quotes. -/
theorem expression_says_words_operators :
    Text.NulFree "say\t\"AND\" \"\" NEAR(\"a b*" ∧
      quotedWords (expression "say\t\"AND\" \"\" NEAR(\"a b*".toList) =
        .ok ["say".toList, "\"AND\"".toList, "\"\"".toList, "NEAR(\"a".toList, "b*".toList] := by
  have hname : Text.NulFree "say\t\"AND\" \"\" NEAR(\"a b*" := by decide
  have hwords : Text.words "say\t\"AND\" \"\" NEAR(\"a b*".toList =
      ["say".toList, "\"AND\"".toList, "\"\"".toList, "NEAR(\"a".toList, "b*".toList] := by decide
  refine ⟨hname, ?_⟩
  rw [← hwords]
  exact (expression_says_words _ hname).1

end CardCensus.Lookup
