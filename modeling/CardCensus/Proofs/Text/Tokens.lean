import CardCensus.Proofs.Text.Folding
import CardCensus.Text.Tokens
import CardCensus.Text.Words

/-!
# Words and searchable words

A blank ends a searchable word and adds nothing to it, so the searchable words of a text are those
of its words, one word after the other. The case of ASCII letters does not matter to them.

Results:
* `tokens_fold`: the searchable words of a text do not depend on the case of ASCII letters.
* `tokens_words`: the searchable words of a text are those of its words.
* `tokens_eq_nil_iff`: a text has searchable words exactly if it has a letter or digit.
-/

namespace CardCensus.Text

/-! ## Case -/

/-- In ASCII, what the word index makes of a character does not depend on its case. -/
theorem ascii_tokenChar_toLower : ∀ n : Fin 0x80,
    isTokenChar (Char.ofNat n).toLower = isTokenChar (Char.ofNat n) ∧
      isDroppedMark (Char.ofNat n).toLower = isDroppedMark (Char.ofNat n) ∧
      tokenContribution (Char.ofNat n).toLower = tokenContribution (Char.ofNat n) := by
  decide +kernel

theorem tokenChar_toLower (c : Char) : isTokenChar c.toLower = isTokenChar c ∧
    isDroppedMark c.toLower = isDroppedMark c ∧ tokenContribution c.toLower =
      tokenContribution c := by
  by_cases hascii : c.toNat < 0x80
  · have hc := ascii_tokenChar_toLower ⟨c.toNat, hascii⟩
    rwa [Char.ofNat_toNat] at hc
  · rw [toLower_eq_self (by omega)]
    exact ⟨rfl, rfl, rfl⟩

theorem tokensFrom_fold (state : Option (List Char)) (s : List Char) :
    tokensFrom state (fold s) = tokensFrom state s := by
  induction s generalizing state with
  | nil => rfl
  | cons c rest ih =>
    obtain ⟨htoken, hmark, hletters⟩ := tokenChar_toLower c
    change tokensFrom state (c.toLower :: fold rest) = _
    cases state <;> simp only [tokensFrom, htoken, hmark, hletters, ih]

/-- The searchable words of a text do not depend on the case of ASCII letters. -/
theorem tokens_fold (s : List Char) : tokens (fold s) = tokens s :=
  tokensFrom_fold none s

/-! ## Blanks -/

/-- The numbers of the blanks. -/
def blankCodes : List Nat :=
  [0x9, 0xA, 0xB, 0xC, 0xD, 0x20, 0x85, 0xA0, 0x1680, 0x2000, 0x2001, 0x2002, 0x2003, 0x2004,
    0x2005, 0x2006, 0x2007,
    0x2008, 0x2009, 0x200A, 0x2028, 0x2029, 0x202F, 0x205F, 0x3000]

theorem toNat_mem_blankCodes {c : Char} (h : isBlank c = true) : c.toNat ∈ blankCodes := by
  simp only [isBlank, Bool.or_eq_true, Bool.and_eq_true, decide_eq_true_eq, beq_iff_eq] at h
  simp only [blankCodes, List.mem_cons, List.not_mem_nil, or_false]
  omega

theorem tokenChar_of_mem_blankCodes : ∀ n ∈ blankCodes,
    isTokenChar (Char.ofNat n) = false ∧ isDroppedMark (Char.ofNat n) = false := by
  decide +kernel

/-- A blank is no part of a searchable word. -/
theorem tokenChar_of_isBlank {c : Char} (h : isBlank c = true) :
    isTokenChar c = false ∧ isDroppedMark c = false := by
  have hc := tokenChar_of_mem_blankCodes c.toNat (toNat_mem_blankCodes h)
  rwa [Char.ofNat_toNat] at hc

/-- A blank ends the word that is being read. -/
theorem tokensFrom_cons_of_isBlank {c : Char} (h : isBlank c = true) (state : Option (List Char))
    (rest : List Char) :
    tokensFrom state (c :: rest) = tokensFrom state [] ++ tokens rest := by
  obtain ⟨htoken, hmark⟩ := tokenChar_of_isBlank h
  cases state <;> simp [tokensFrom, tokens, htoken, hmark]

/-- Reading one character gives a word or none and goes on in a state that the rest has no
    part in. -/
theorem exists_tokensFrom_cons (state : Option (List Char)) (c : Char) : ∃ found next,
    ∀ rest, tokensFrom state (c :: rest) = found ++ tokensFrom next rest := by
  cases state with
  | none =>
    by_cases htoken : isTokenChar c = true
    · exact ⟨[], some (tokenContribution c).reverse, fun rest => by simp [tokensFrom, htoken]⟩
    · exact ⟨[], none, fun rest => by simp [tokensFrom, htoken]⟩
  | some word =>
    by_cases hpart : (isTokenChar c || isDroppedMark c) = true
    · exact ⟨[], some ((tokenContribution c).reverse ++ word), fun rest => by
        simp only [tokensFrom, hpart]; rfl⟩
    · exact ⟨[word.reverse], none, fun rest => by simp only [tokensFrom, hpart]; rfl⟩

/-- What has been read of a word goes into the first piece of the text. -/
theorem tokensFrom_pieces (state : Option (List Char)) (s : List Char) : ∃ piece others,
    pieces isBlank s = piece :: others ∧
      tokensFrom state s = tokensFrom state piece ++ others.flatMap tokens := by
  -- The state is left general: behind a letter, the rest is read from the middle of a word.
  induction s generalizing state with
  | nil => exact ⟨[], [], rfl, by simp⟩
  | cons c rest ih =>
    by_cases hblank : isBlank c = true
    · obtain ⟨piece, others, hpieces, htokens⟩ := ih none
      refine ⟨[], pieces isBlank rest, by rw [pieces, if_pos hblank], ?_⟩
      rw [tokensFrom_cons_of_isBlank hblank, hpieces, List.flatMap_cons, tokens, htokens, tokens]
    · obtain ⟨found, next, hstep⟩ := exists_tokensFrom_cons state c
      obtain ⟨piece, others, hpieces, htokens⟩ := ih next
      refine ⟨c :: piece, others, by rw [pieces, if_neg hblank, hpieces], ?_⟩
      rw [hstep, htokens, hstep, List.append_assoc]

/-- The searchable words of a text are those of its words. -/
theorem tokens_words (s : List Char) : (words s).flatMap tokens = tokens s := by
  obtain ⟨piece, others, hpieces, htokens⟩ := tokensFrom_pieces none s
  have hfilled : ∀ parts : List (List Char),
      (parts.filter fun word => !word.isEmpty).flatMap tokens = parts.flatMap tokens := by
    intro parts
    induction parts with
    | nil => rfl
    | cons part parts ih =>
      cases part with
      | nil => exact ih
      | cons c part => rw [List.filter_cons_of_pos rfl, List.flatMap_cons, ih, List.flatMap_cons]
  rw [words, hfilled, hpieces, List.flatMap_cons]
  exact htokens.symm

/-! ## Letters and digits -/

theorem tokensFrom_some_ne_nil (word s : List Char) : tokensFrom (some word) s ≠ [] := by
  induction s generalizing word with
  | nil => exact List.cons_ne_nil _ _
  | cons c rest ih =>
    rw [tokensFrom]
    split
    · exact ih _
    · exact List.cons_ne_nil _ _

/-- A character that words are made of makes a searchable word. -/
theorem tokens_ne_nil {s : List Char} (h : ∃ c ∈ s, isTokenChar c = true) : tokens s ≠ [] := by
  rw [tokens]
  induction s with
  | nil =>
    obtain ⟨c, hc, -⟩ := h
    cases hc
  | cons d rest ih =>
    rw [tokensFrom]
    split
    · exact tokensFrom_some_ne_nil _ _
    · rename_i hd
      obtain ⟨c, hc, htoken⟩ := h
      rcases List.mem_cons.mp hc with rfl | hc
      · exact absurd htoken hd
      · exact ih ⟨c, hc, htoken⟩

/-- A text has no searchable word exactly if none of its characters can start one. -/
theorem tokens_eq_nil_iff {s : List Char} : tokens s = [] ↔ ∀ c ∈ s, isTokenChar c = false := by
  constructor
  · intro hnil c hc
    rw [← Bool.not_eq_true]
    exact fun htoken => tokens_ne_nil ⟨c, hc, htoken⟩ hnil
  · intro h
    rw [tokens]
    induction s with
    | nil => rfl
    | cons c rest ih =>
      rw [List.forall_mem_cons] at h
      rw [tokensFrom, if_neg (Bool.eq_false_iff.mp h.1)]
      exact ih h.2

/-! ## What the index keeps -/

theorem terms_fold (s : List Char) : terms (fold s) = terms s := by
  rw [terms, tokens_fold, terms]

/-- What the index keeps of a text is what it keeps of its words. -/
theorem terms_words (s : List Char) : (words s).flatMap terms = terms s := by
  rw [terms, ← tokens_words, List.map_flatMap]
  rfl

/-- The index keeps nothing of a text exactly if none of its characters can start a word. -/
theorem terms_eq_nil_iff {s : List Char} : terms s = [] ↔ ∀ c ∈ s, isTokenChar c = false := by
  rw [terms, List.map_eq_nil_iff, tokens_eq_nil_iff]

/-- A character that can start a word stands in one of the words. -/
theorem exists_word_terms_ne_nil {s : List Char} (h : ∃ c ∈ s, isTokenChar c = true) :
    ∃ word ∈ words s, terms word ≠ [] := by
  have hne : terms s ≠ [] := by
    rw [ne_eq, terms, List.map_eq_nil_iff]
    exact tokens_ne_nil h
  rw [← terms_words, ne_eq, List.flatMap_eq_nil_iff] at hne
  push Not at hne
  exact hne

end CardCensus.Text
