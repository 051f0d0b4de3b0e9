import CardCensus.Text.Fold

/-!
# Wildcard patterns

In a pattern `%` stands for any run of characters, `_` for any one character, and a backslash takes
the character after it literally. Letters of ASCII compare without regard to case. `escape` writes a
text so that it stands for itself, and `containing` is the pattern of the texts that hold a needle.

A pattern and a text are read character by character, and the two code points before U+10000 that
stand for no character are read as the mark for what cannot be read.

Results:
* `byteCount_containing`: how many bytes the pattern for a needle has.
* `asRead_eq_self`: a text without the two code points is read as it stands.
-/

namespace CardCensus.Text

/-- One element of a pattern. -/
inductive PatternItem where
  /-- Any run of characters. -/
  | anyRun
  /-- Any one character. -/
  | anyChar
  /-- This character, in either case. -/
  | literal (c : Char)
  deriving Repr, DecidableEq

/-- The elements of a written pattern. A backslash at the end stands for nothing that a text can
    hold, so there is no reading. -/
def patternItems : List Char → Option (List PatternItem)
  | [] => some []
  | '%' :: rest => (patternItems rest).map (.anyRun :: ·)
  | '_' :: rest => (patternItems rest).map (.anyChar :: ·)
  | '\\' :: c :: rest => (patternItems rest).map (.literal c :: ·)
  | '\\' :: [] => none
  | c :: rest => (patternItems rest).map (.literal c :: ·)

/-- Some end of the text satisfies the test. -/
def anySuffix (test : List Char → Bool) : List Char → Bool
  | [] => test []
  | c :: rest => test (c :: rest) || anySuffix test rest

/-- The elements of a pattern cover the whole text. -/
def matchesItems : List PatternItem → List Char → Bool
  | [], s => s.isEmpty
  | .anyRun :: items, s => anySuffix (matchesItems items) s
  | .anyChar :: _, [] => false
  | .anyChar :: items, _ :: s => matchesItems items s
  | .literal _ :: _, [] => false
  | .literal c :: items, d :: s => c.toLower == d.toLower && matchesItems items s

/-- The text matches the written pattern. -/
def matchesPattern (pattern s : List Char) : Bool :=
  match patternItems pattern with
  | none => false
  | some items => matchesItems items s

/-- One character of a pattern that stands for itself. -/
def escapeChar (c : Char) : List Char :=
  if c = '%' ∨ c = '_' ∨ c = '\\' then ['\\', c] else [c]

/-- The pattern that stands for the text itself (`escape_like`). -/
def escape (s : List Char) : List Char :=
  s.flatMap escapeChar

/-- The pattern of the texts that hold the needle. -/
def containing (needle : List Char) : List Char :=
  '%' :: escape needle ++ ['%']

/-- How many bytes the characters have. -/
def byteCount (s : List Char) : Nat :=
  s.foldr (fun c count => c.utf8Size + count) 0

theorem byteCount_cons (c : Char) (rest : List Char) :
    byteCount (c :: rest) = c.utf8Size + byteCount rest :=
  rfl

theorem byteCount_append (s t : List Char) : byteCount (s ++ t) = byteCount s + byteCount t := by
  induction s with
  | nil => exact (Nat.zero_add _).symm
  | cons c rest ih => rw [List.cons_append, byteCount_cons, byteCount_cons, ih, Nat.add_assoc]

theorem length_le_byteCount (s : List Char) : s.length ≤ byteCount s := by
  induction s with
  | nil => exact Nat.le_refl _
  | cons c rest ih =>
    have hpos := c.utf8Size_pos
    rw [byteCount_cons, List.length_cons]
    omega

/-- An escaped text has at most twice the bytes of the text, and no less than the text. -/
theorem byteCount_escape (s : List Char) :
    byteCount s ≤ byteCount (escape s) ∧ byteCount (escape s) ≤ 2 * byteCount s := by
  induction s with
  | nil => exact ⟨Nat.le_refl _, Nat.le_refl _⟩
  | cons c rest ih =>
    have hchar : c.utf8Size ≤ byteCount (escapeChar c) ∧
        byteCount (escapeChar c) ≤ 2 * c.utf8Size := by
      have hpos := c.utf8Size_pos
      have hmark : '\\'.utf8Size = 1 := by decide
      unfold escapeChar
      split <;> simp only [byteCount, List.foldr_cons, List.foldr_nil] <;> omega
    have hescape : escape (c :: rest) = escapeChar c ++ escape rest := rfl
    rw [hescape, byteCount_append, byteCount_cons]
    omega

/-- The pattern has two bytes besides the escaped needle. -/
theorem byteCount_containing (needle : List Char) :
    byteCount (containing needle) = byteCount (escape needle) + 2 := by
  have hmark : byteCount ['%'] = 1 := by decide
  have hsplit : containing needle = ['%'] ++ escape needle ++ ['%'] := rfl
  rw [hsplit, byteCount_append, byteCount_append, hmark]
  omega

/-- The character that is read. -/
def readChar (c : Char) : Char :=
  if c = '\uFFFE' ∨ c = '\uFFFF' then '\uFFFD' else c

/-- The text that is read. -/
def asRead (s : String) : String :=
  String.ofList (s.toList.map readChar)

/-- The text has neither of the code points that are read as another. -/
def IsReadable (s : String) : Prop :=
  '\uFFFE' ∉ s.toList ∧ '\uFFFF' ∉ s.toList

instance (s : String) : Decidable (IsReadable s) :=
  inferInstanceAs (Decidable (_ ∧ _))

theorem asRead_eq_self {s : String} (h : IsReadable s) : asRead s = s := by
  have hchar : ∀ c ∈ s.toList, readChar c = c := by
    rintro c hc
    refine if_neg (not_or.mpr ⟨?_, ?_⟩) <;> rintro rfl
    · exact h.1 hc
    · exact h.2 hc
  rw [asRead, List.map_congr_left (g := id) hchar, List.map_id, String.ofList_toList]

end CardCensus.Text
