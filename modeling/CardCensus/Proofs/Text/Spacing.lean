import CardCensus.Proofs.Text.Split
import CardCensus.Text.Words

/-!
# Blanks at the ends of a text

Trimming a text and taking its words apart do not see blanks before it or behind it. A text whose
pieces are trimmed can get blanks at both ends as well, as long as no blank is a separator.

Results:
* `trim_blanks_append`, `trim_append_blanks`: blanks at either end are trimmed away.
* `exists_blanks_trim`: a text is blanks, what trimming leaves, and blanks.
* `words_trim`: trimming keeps the words.
* `words_eq_nil_iff`: a text has no words when it is blank.
* `trim_append_mark`: trimming a text that begins with a mark trims its end.
* `pieces_plain_append`, `pieces_append_plain`: the pieces of a text with something without
  separators at either end.
-/

namespace CardCensus.Text

variable {blanks : List Char}

theorem notMem_of_isBlankText (h : isBlankText blanks = true) {c : Char} (hc : isBlank c = false) :
    c ∉ blanks := by
  intro hmem
  rw [List.all_eq_true.mp h c hmem] at hc
  cases hc

/-! ## Trimming -/

theorem trimStart_blanks_append (h : isBlankText blanks = true) (s : List Char) :
    trimStart (blanks ++ s) = trimStart s :=
  List.dropWhile_append_of_pos (List.all_eq_true.mp h)

theorem trimEnd_append_blanks (h : isBlankText blanks = true) (s : List Char) :
    trimEnd (s ++ blanks) = trimEnd s := by
  have hreverse : isBlankText blanks.reverse = true := by rwa [isBlankText, List.all_reverse]
  rw [trimEnd, List.reverse_append]
  exact congrArg List.reverse (trimStart_blanks_append hreverse s.reverse)

theorem trim_blanks_append (h : isBlankText blanks = true) (s : List Char) :
    trim (blanks ++ s) = trim s := by
  rw [trim, trimStart_blanks_append h, trim]

theorem trim_append_blanks (h : isBlankText blanks = true) (s : List Char) :
    trim (s ++ blanks) = trim s := by
  by_cases hs : isBlankText s = true
  · rw [trim_blanks_append hs, isBlankText_iff_trim_eq_nil.mp h, isBlankText_iff_trim_eq_nil.mp hs]
  · have hstart : trimStart (s ++ blanks) = trimStart s ++ blanks := by
      have hne : ¬ (s.dropWhile isBlank).isEmpty = true := by
        rwa [List.isEmpty_iff, ← trimStart, trimStart_eq_nil_iff]
      rw [trimStart, List.dropWhile_append, if_neg hne, trimStart]
    rw [trim, hstart, trimEnd_append_blanks h, trim]

/-- What trimming takes off the end is blank. -/
theorem exists_trimEnd_append (s : List Char) :
    ∃ tail, isBlankText tail = true ∧ s = trimEnd s ++ tail := by
  refine ⟨(s.reverse.takeWhile isBlank).reverse, ?_, ?_⟩
  · rw [isBlankText, List.all_reverse]
    exact List.all_takeWhile
  · rw [trimEnd, ← List.reverse_append, List.takeWhile_append_dropWhile, List.reverse_reverse]

/-- A text is blanks, what trimming leaves, and blanks. -/
theorem exists_blanks_trim (s : List Char) : ∃ lead tail, isBlankText lead = true ∧
    isBlankText tail = true ∧
    s = lead ++ (trim s ++ tail) := by
  obtain ⟨tail, htail, hs⟩ := exists_trimEnd_append (trimStart s)
  refine ⟨s.takeWhile isBlank, tail, List.all_takeWhile, htail, ?_⟩
  rw [trim, ← hs, trimStart, List.takeWhile_append_dropWhile]

/-- Trimming keeps what is not blank. -/
theorem mem_trim_of_mem {s : List Char} {c : Char} (h : c ∈ s) (hc : isBlank c = false) :
    c ∈ trim s := by
  obtain ⟨lead, tail, hlead, htail, hs⟩ := exists_blanks_trim s
  rw [hs, List.mem_append, List.mem_append] at h
  exact (h.resolve_left (notMem_of_isBlankText hlead hc)).resolve_right
    (notMem_of_isBlankText htail hc)

theorem trim_trimEnd (s : List Char) : trim (trimEnd s) = trim s := by
  obtain ⟨tail, htail, hs⟩ := exists_trimEnd_append s
  have htrim := trim_append_blanks htail (trimEnd s)
  rw [← hs] at htrim
  exact htrim.symm

/-- Trimming a text that begins with a mark trims its end. -/
theorem trim_append_mark {lead : List Char} (h : isBlankText lead = true) {mark : Char}
    (hmark : isBlank mark = false)
    (s : List Char) : trim (lead ++ mark :: s) = mark :: trimEnd s := by
  have hself : trimStart (mark :: s) = mark :: s := trimStart_eq_self fun c rest heq => by
    obtain ⟨rfl, -⟩ := List.cons.inj heq
    exact hmark
  have hlast : [mark].dropWhile isBlank = [mark] :=
    List.dropWhile_cons_of_neg (Bool.eq_false_iff.mp hmark)
  rw [trim, trimStart_blanks_append h, hself, trimEnd, List.reverse_cons, List.dropWhile_append,
    hlast, trimEnd]
  split
  · rename_i hnone
    rw [List.isEmpty_iff] at hnone
    rw [hnone]
    rfl
  · rw [List.reverse_append]
    rfl

/-! ## Words -/

theorem words_blanks_append (h : isBlankText blanks = true) (s : List Char) :
    words (blanks ++ s) = words s := by
  induction blanks with
  | nil => rfl
  | cons c blanks ih =>
    rw [isBlankText, List.all_cons, Bool.and_eq_true] at h
    rw [← ih h.2, words, List.cons_append, pieces, if_pos h.1]
    rfl

theorem words_append_blanks (h : isBlankText blanks = true) (s : List Char) :
    words (s ++ blanks) = words s := by
  cases blanks with
  | nil => rw [List.append_nil]
  | cons c blanks =>
    rw [isBlankText, List.all_cons, Bool.and_eq_true] at h
    have hrest : words (blanks ++ []) = words [] := words_blanks_append h.2 []
    rw [List.append_nil] at hrest
    rw [words, pieces_append h.1, List.filter_append]
    show words s ++ words blanks = words s
    rw [hrest]
    exact List.append_nil _

theorem words_trim (s : List Char) : words (trim s) = words s := by
  obtain ⟨lead, tail, hlead, htail, hs⟩ := exists_blanks_trim s
  have hwords := words_blanks_append hlead (trim s ++ tail)
  rw [← hs, words_append_blanks htail] at hwords
  exact hwords.symm

/-- A text has no words when it is blank. -/
theorem words_eq_nil_iff {s : List Char} : words s = [] ↔ isBlankText s = true := by
  constructor
  · intro hwords
    rw [isBlankText, List.all_eq_true]
    intro c hc
    cases hplain : isBlank c with
    | true => rfl
    | false =>
      obtain ⟨piece, hpiece, hmem⟩ := exists_mem_pieces hc hplain
      have hword : piece ∈ words s :=
        List.mem_filter.mpr ⟨hpiece, by simpa using List.ne_nil_of_mem hmem⟩
      rw [hwords] at hword
      cases hword
  · intro hblank
    have hwords := words_blanks_append hblank []
    rwa [List.append_nil] at hwords

/-! ## Pieces -/

section Pieces

variable {isSeparator : Char → Bool} {plain : List Char}

/-- What is put before a text without a separator comes before its first piece. -/
theorem pieces_plain_append (h : ∀ c ∈ plain, isSeparator c = false) {s first : List Char}
    {others : List (List Char)}
    (hs : pieces isSeparator s = first :: others) :
    pieces isSeparator (plain ++ s) = (plain ++ first) :: others := by
  induction plain with
  | nil => exact hs
  | cons c plain ih =>
    rw [List.forall_mem_cons] at h
    rw [List.cons_append, pieces, if_neg (Bool.eq_false_iff.mp h.1), ih h.2]
    rfl

/-- What is put behind a text without a separator comes behind its last piece. -/
theorem pieces_append_plain (h : ∀ c ∈ plain, isSeparator c = false) (s : List Char) :
    ∃ others last, pieces isSeparator s = others ++ [last] ∧
      pieces isSeparator (s ++ plain) = others ++ [last ++ plain] := by
  induction s with
  | nil => exact ⟨[], [], rfl, pieces_eq_singleton h⟩
  | cons c s ih =>
    obtain ⟨others, last, hs, happend⟩ := ih
    by_cases hc : isSeparator c = true
    · refine ⟨[] :: others, last, ?_, ?_⟩
      · rw [pieces, if_pos hc, hs]
        rfl
      · rw [List.cons_append, pieces, if_pos hc, happend]
        rfl
    · cases others with
      | nil => exact ⟨[], c :: last, by simp [pieces, hc, hs], by simp [pieces, hc, happend]⟩
      | cons piece others =>
        exact ⟨(c :: piece) :: others, last, by
          simp [pieces, hc, hs], by simp [pieces, hc, happend]⟩

end Pieces

end CardCensus.Text
