import CardCensus.Lookup
import CardCensus.Proofs.Query.Clauses
import CardCensus.Proofs.Text.Pattern
import CardCensus.Proofs.Text.Split

/-!
# The search expression of a name

Each word of a name is put between quotes, the quotes in it written twice. Reading the expression
gives the words again, whatever characters they are made of, unless a character with number zero
cuts the expression short. It does so inside a word, so that a quote is left open and the expression
cannot be read at all.

Results:
* `quotedWordsFrom_body`: a quoted word is read to its closing quote.
* `quotedWords_expression`: the words of a name are read from its expression.
* `quotedWords_expression_of_nul`: there is no reading of a name with a character with number zero.
-/

namespace CardCensus.Lookup

/-- A character inside the quotes: a quote is written twice. -/
def quoteBody (word : List Char) : List Char :=
  word.flatMap fun c => if c = '"' then ['"', '"'] else [c]

theorem quoteWord_eq (word : List Char) : quoteWord word = '"' :: (quoteBody word ++ ['"']) := rfl

theorem quoteBody_cons {c : Char} (h : c ≠ '"') (word : List Char) :
    quoteBody (c :: word) = c :: quoteBody word := by
  rw [quoteBody, List.flatMap_cons, if_neg h]
  rfl

/-- A quoted word is read to its closing quote, which no other quote follows. -/
theorem quotedWordsFrom_body (word read : List Char) {rest : List Char}
    (hrest : ∀ tail, rest ≠ '"' :: tail) :
    quotedWordsFrom (.inside read) (quoteBody word ++ '"' :: rest) =
      (quotedWordsFrom .outside rest).map ((read.reverse ++ word) :: ·) := by
  induction word generalizing read with
  | nil =>
    rw [List.append_nil]
    exact quotedWordsFrom.eq_5 read rest hrest
  | cons c word ih =>
    have hletters : read.reverse ++ c :: word = (c :: read).reverse ++ word := by simp
    rw [hletters, ← ih (c :: read)]
    by_cases hquote : c = '"'
    · subst hquote
      exact quotedWordsFrom.eq_4 read (quoteBody word ++ '"' :: rest)
    · rw [quoteBody_cons hquote, List.cons_append]
      exact quotedWordsFrom.eq_6 read c _ (fun _ heq _ => hquote heq) hquote

/-- A quoted word is read as the word. -/
theorem quotedWordsFrom_quoteWord (word : List Char) {rest : List Char}
    (hrest : ∀ tail, rest ≠ '"' :: tail) :
    quotedWordsFrom .outside (quoteWord word ++ rest) = (quotedWordsFrom .outside rest).map
      (word :: ·) := by
  have hopening : quoteWord word ++ rest = '"' :: (quoteBody word ++ '"' :: rest) := by
    rw [quoteWord_eq, List.cons_append, List.append_assoc, List.singleton_append]
  rw [hopening, quotedWordsFrom, if_neg (by decide), if_pos rfl]
  exact quotedWordsFrom_body word [] hrest

/-- **Run.** Quoted words with blanks between them are read as the words. -/
theorem quotedWordsFrom_joinWith (words : List (List Char)) :
    quotedWordsFrom .outside (joinWith ' ' (words.map quoteWord)) = .ok words := by
  induction words with
  | nil => rfl
  | cons word words ih =>
    rw [List.map_cons]
    by_cases hwords : words.map quoteWord = []
    · obtain rfl := List.map_eq_nil_iff.mp hwords
      have hnil : ∀ tail, ([] : List Char) ≠ '"' :: tail := fun _ heq => nomatch heq
      rw [List.map_nil, joinWith_singleton, ← List.append_nil (quoteWord word),
        quotedWordsFrom_quoteWord word hnil]
      rfl
    · have hrest : ∀ tail, ' ' :: joinWith ' ' (words.map quoteWord) ≠ '"' :: tail :=
        fun _ heq => absurd (List.cons.inj heq).1 (by decide)
      rw [joinWith_cons hwords, quotedWordsFrom_quoteWord word hrest, quotedWordsFrom, if_pos rfl,
        ih]
      rfl

theorem expression_eq (name : List Char) :
    expression name = joinWith ' ' ((Text.words name).map quoteWord) := rfl

/-! ## Characters of an expression -/

theorem mem_quoteWord {word : List Char} {c : Char} (h : c ∈ quoteWord word) :
    c ∈ word ∨ c = '"' := by
  rw [quoteWord_eq, List.mem_cons, List.mem_append, List.mem_singleton, quoteBody,
    List.mem_flatMap] at h
  rcases h with h | ⟨d, hd, hc⟩ | h
  · exact Or.inr h
  · split at hc
    · exact Or.inr (by simpa using hc)
    · exact Or.inl (List.mem_singleton.mp hc ▸ hd)
  · exact Or.inr h

theorem nul_notMem_expression {name : List Char} (h : '\x00' ∉ name) :
    '\x00' ∉ expression name := by
  apply notMem_joinWith (by decide)
  intro part hpart
  obtain ⟨word, hword, rfl⟩ := List.mem_map.mp hpart
  intro hmem
  rcases mem_quoteWord hmem with hmem | hmem
  · exact h (Text.mem_of_mem_pieces (List.mem_filter.mp hword).1 hmem).1
  · exact absurd hmem (by decide)

/-- The words of a name are read from its expression. -/
theorem quotedWords_expression {name : List Char} (h : '\x00' ∉ name) :
    quotedWords (expression name) = .ok (Text.words name) := by
  rw [quotedWords, Text.untilNul_eq_self (nul_notMem_expression h), expression_eq,
    quotedWordsFrom_joinWith]

/-! ## Expressions that are cut short -/

theorem nul_mem_quoteBody {word : List Char} (h : '\x00' ∈ word) : '\x00' ∈ quoteBody word :=
  List.mem_flatMap.mpr ⟨_, h, List.mem_singleton.mpr rfl⟩

/-- A body that is cut short is the body of a word. -/
theorem exists_quoteBody_eq (word : List Char) :
    ∃ front, Text.untilNul (quoteBody word) = quoteBody front := by
  induction word with
  | nil => exact ⟨[], rfl⟩
  | cons c word ih =>
    obtain ⟨front, hfront⟩ := ih
    by_cases hnul : c = '\x00'
    · subst hnul
      exact ⟨[], rfl⟩
    · refine ⟨c :: front, ?_⟩
      have hletter : '\x00' ∉ quoteBody [c] := by
        rw [quoteBody, List.flatMap_singleton]
        split
        · decide
        · exact fun h => hnul (List.mem_singleton.mp h).symm
      have hsplit : ∀ s, quoteBody (c :: s) = quoteBody [c] ++ quoteBody s := fun s => by
        rw [quoteBody, quoteBody, quoteBody, List.flatMap_singleton, List.flatMap_cons]
      rw [hsplit word, hsplit front, Text.untilNul_append_of_notMem hletter, hfront]

/-- A quote that is left open is not read. -/
theorem quotedWordsFrom_open (word read : List Char) :
    quotedWordsFrom (.inside read) (quoteBody word) = .error () := by
  induction word generalizing read with
  | nil => rfl
  | cons c word ih =>
    by_cases hquote : c = '"'
    · subst hquote
      exact (quotedWordsFrom.eq_4 read (quoteBody word)).trans (ih _)
    · rw [quoteBody_cons hquote]
      exact (quotedWordsFrom.eq_6 read c _ (fun _ heq _ => hquote heq) hquote).trans (ih _)

/-- **Run.** Of quoted words that are cut short inside one of them, this one is left open. -/
theorem quotedWordsFrom_cut {words : List (List Char)} (h : ∃ word ∈ words, '\x00' ∈ word) :
    quotedWordsFrom .outside (Text.untilNul (joinWith ' ' (words.map quoteWord))) = .error () := by
  induction words with
  | nil =>
    obtain ⟨word, hword, -⟩ := h
    cases hword
  | cons word words ih =>
    by_cases hnul : '\x00' ∈ word
    · obtain ⟨rest, hrest⟩ : ∃ rest, joinWith ' ' ((word :: words).map quoteWord) =
          ('"' :: quoteBody word) ++ rest := by
        cases words with
        | nil => exact ⟨['"'], joinWith_singleton ' ' (quoteWord word)⟩
        | cons other words =>
          refine ⟨'"' :: ' ' :: joinWith ' ' ((other :: words).map quoteWord), ?_⟩
          rw [List.map_cons, joinWith_cons (by simp), quoteWord_eq]
          simp
      obtain ⟨front, hfront⟩ := exists_quoteBody_eq word
      have hcut : Text.untilNul ('"' :: quoteBody word) = '"' :: quoteBody front := by
        rw [← hfront]
        rfl
      rw [hrest, Text.untilNul_append_of_mem (List.mem_cons_of_mem _ (nul_mem_quoteBody hnul)),
        hcut, quotedWordsFrom,
        if_neg (by decide), if_pos rfl]
      exact quotedWordsFrom_open front []
    · obtain ⟨other, hother, hlater⟩ := h
      have hmem : other ∈ words :=
        (List.mem_cons.mp hother).resolve_left fun heq => hnul (heq ▸ hlater)
      have hwords : words.map quoteWord ≠ [] := List.ne_nil_of_mem (List.mem_map_of_mem hmem)
      have hword : '\x00' ∉ quoteWord word := fun hin =>
        (mem_quoteWord hin).elim hnul (by decide)
      have hblank : Text.untilNul (' ' :: joinWith ' ' (words.map quoteWord)) =
          ' ' :: Text.untilNul (joinWith ' ' (words.map quoteWord)) := rfl
      have hrest : ∀ tail, ' ' :: Text.untilNul (joinWith ' ' (words.map quoteWord)) ≠
          '"' :: tail :=
        fun _ heq => absurd (List.cons.inj heq).1 (by decide)
      rw [List.map_cons, joinWith_cons hwords, Text.untilNul_append_of_notMem hword, hblank,
        quotedWordsFrom_quoteWord word hrest, quotedWordsFrom, if_pos rfl, ih ⟨other, hmem, hlater⟩]
      rfl

/-- There is no reading of a name with a character with number zero. -/
theorem quotedWords_expression_of_nul {name : List Char} (h : '\x00' ∈ name) :
    quotedWords (expression name) = .error .unterminatedString := by
  have hword : ∃ word ∈ Text.words name, '\x00' ∈ word := by
    obtain ⟨piece, hpiece, hmem⟩ :=
      Text.exists_mem_pieces h (by decide : Text.isBlank '\x00' = false)
    have hfilled : (!piece.isEmpty) = true := by
      rw [Bool.not_eq_true', List.isEmpty_eq_false_iff]
      exact List.ne_nil_of_mem hmem
    exact ⟨piece, List.mem_filter.mpr ⟨hpiece, hfilled⟩, hmem⟩
  rw [quotedWords, expression_eq, quotedWordsFrom_cut hword]

end CardCensus.Lookup
