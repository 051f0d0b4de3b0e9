/-!
# Comparing texts while ignoring the case of ASCII letters

`fold` brings the ASCII letters of a text to lower case and leaves every other character alone.
`sameFolded` compares whole texts. `collatesAs` is the comparison of the corpus tables: it stops at
a character with number zero and then compares sizes only.

Results:
* `sameFolded_iff`: two texts compare equal exactly when their folded forms are equal.
* `fold_append`: folding works character by character.
-/

namespace CardCensus.Text

/-- The text with ASCII letters in lower case. -/
def fold (s : List Char) : List Char :=
  s.map Char.toLower

/-- The string with ASCII letters in lower case. -/
def folded (s : String) : String :=
  String.ofList (fold s.toList)

/-- The strings are equal up to the case of ASCII letters. -/
def sameFolded (a b : String) : Bool :=
  fold a.toList == fold b.toList

theorem sameFolded_iff {a b : String} : sameFolded a b = true ↔ fold a.toList = fold b.toList := by
  simp [sameFolded]

theorem fold_append (s t : List Char) : fold (s ++ t) = fold s ++ fold t := by
  simp [fold]

/-- The part of a text before its first character with number zero. -/
def untilNul (s : List Char) : List Char :=
  s.takeWhile (· != '\x00')

/-- The texts have one size in UTF-8 and agree, up to the case of ASCII letters, up to the first
    character with number zero. -/
def collatesAs (a b : String) : Bool :=
  a.utf8ByteSize == b.utf8ByteSize && fold (untilNul a.toList) == fold (untilNul b.toList)

end CardCensus.Text
