/-!
# Blank characters and trimming

A blank is a character of the Unicode property White_Space. `trim` takes the blanks off both ends of
a text, `isBlankText` recognises a text of blanks only.

Results:
* `isBlank_of_isWhitespace`: every ASCII white space character is a blank.
* `isBlankText_iff_trim_eq_nil`: a text is blank exactly when trimming leaves nothing.
-/

namespace CardCensus.Text

/-- The character has the Unicode property White_Space. -/
def isBlank (c : Char) : Bool :=
  let n := c.toNat
  (0x9 ≤ n && n ≤ 0xD) || n == 0x20 || n == 0x85 || n == 0xA0 || n == 0x1680 ||
    (0x2000 ≤ n && n ≤ 0x200A) || n == 0x2028 || n == 0x2029 || n == 0x202F || n == 0x205F ||
      n == 0x3000

/-- The text without the blanks at its start. -/
def trimStart (s : List Char) : List Char :=
  s.dropWhile isBlank

/-- The text without the blanks at its end. -/
def trimEnd (s : List Char) : List Char :=
  (s.reverse.dropWhile isBlank).reverse

/-- The text without the blanks at either end. -/
def trim (s : List Char) : List Char :=
  trimEnd (trimStart s)

/-- The string without the blanks at either end. -/
def trimmed (s : String) : String :=
  String.ofList (trim s.toList)

/-- The text holds nothing but blanks. -/
def isBlankText (s : List Char) : Bool :=
  s.all isBlank

theorem isBlank_of_isWhitespace {c : Char} (h : c.isWhitespace = true) : isBlank c = true := by
  simp only [Char.isWhitespace, Bool.or_eq_true, decide_eq_true_eq] at h
  rcases h with ((rfl | rfl) | rfl) | rfl <;> decide

/-- Dropping the blanks at the start leaves nothing exactly when all is blank. -/
theorem trimStart_eq_nil_iff {s : List Char} : trimStart s = [] ↔ isBlankText s = true := by
  induction s with
  | nil => simp [trimStart, isBlankText]
  | cons c rest ih =>
    by_cases h : isBlank c = true
    · rw [trimStart, List.dropWhile_cons_of_pos h, ← trimStart, ih]
      simp [isBlankText, h]
    · simp [trimStart, isBlankText, h]

theorem trimEnd_eq_nil_iff {s : List Char} : trimEnd s = [] ↔ isBlankText s = true := by
  have h : trimStart s.reverse = [] ↔ isBlankText s.reverse = true := trimStart_eq_nil_iff
  rw [isBlankText, List.all_reverse] at h
  rw [trimEnd, List.reverse_eq_nil_iff]
  exact h

/-- The first character that trimming leaves is no blank. -/
theorem isBlank_of_trimStart_eq_cons {s rest : List Char} {c : Char} (h : trimStart s = c :: rest) :
    isBlank c = false := by
  induction s with
  | nil => simp [trimStart] at h
  | cons d s ih =>
    by_cases hd : isBlank d = true
    · exact ih (by simpa [trimStart, List.dropWhile_cons, hd] using h)
    · simp only [trimStart, List.dropWhile_cons, hd] at h
      simp only [Bool.false_eq_true, ↓reduceIte, List.cons.injEq] at h
      rw [← h.1]
      simpa using hd

theorem isBlankText_iff_trim_eq_nil {s : List Char} : isBlankText s = true ↔ trim s = [] := by
  rw [trim, trimEnd_eq_nil_iff]
  constructor
  · intro h
    rw [trimStart_eq_nil_iff.mpr h]
    rfl
  · intro h
    rw [← trimStart_eq_nil_iff]
    match hs : trimStart s with
    | [] => rfl
    | c :: rest =>
      rw [hs, isBlankText, List.all_cons, isBlank_of_trimStart_eq_cons hs] at h
      simp at h

end CardCensus.Text
