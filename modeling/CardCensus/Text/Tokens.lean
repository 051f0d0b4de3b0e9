import CardCensus.Text.TokenTable

/-!
# Searchable words of a text

The word index cuts a text at everything that is neither letter nor digit, ignores case, and reads a
letter with one diacritic as the bare letter. A combining mark inside a word belongs to the word and
is dropped.

The index tells words apart by their first bytes only: a `term` is a word as far as the index keeps
it.
-/

namespace CardCensus.Text

/-- One of the runs holds the code point. -/
def inRuns (runs : Array (Nat × Nat)) (code : Nat) : Bool :=
  runs.any fun (first, last) => first ≤ code && code ≤ last

/-- The character can start a word: an ASCII letter or digit, or any other character that is not
    listed as a separator. -/
def isTokenChar (c : Char) : Bool :=
  if c.toNat < 0x80 then c.isAlphanum else !inRuns separatorRuns c.toNat

/-- The character is a combining mark that a word swallows. -/
def isDroppedMark (c : Char) : Bool :=
  inRuns diacriticRuns c.toNat

/-- The character with case and a single diacritic taken away. -/
def tokenLetter (c : Char) : Char :=
  if c.toNat < 0x80 then c.toLower
  else
    let code := match foldRuns.find? (·.covers c.toNat) with
      | some run => run.apply c.toNat
      | none => c.toNat
    match markedLetters.find? fun (first, last, _) => first ≤ code && code ≤ last with
    | some (_, _, letter) => letter
    | none => Char.ofNat code

/-- What a character inside a word contributes to it. -/
def tokenContribution (c : Char) : List Char :=
  if isDroppedMark c then [] else [tokenLetter c]

/-- The words of a text, given the letters read so far of a word that is not finished, last one
    first. -/
def tokensFrom : Option (List Char) → List Char → List (List Char)
  | none, [] => []
  | some word, [] => [word.reverse]
  | none, c :: rest =>
    if isTokenChar c then tokensFrom (some (tokenContribution c).reverse) rest
    else tokensFrom none rest
  | some word, c :: rest =>
    if isTokenChar c || isDroppedMark c
    then tokensFrom (some ((tokenContribution c).reverse ++ word)) rest
    else word.reverse :: tokensFrom none rest

/-- The searchable words of a text, in order. -/
def tokens (s : List Char) : List (List Char) :=
  tokensFrom none s

/-- How many bytes of a word the index keeps. -/
def keptBytes : Nat := 32768

/-- A word as the index keeps it. The last character may be cut in two. -/
def term (word : List Char) : List UInt8 :=
  (word.flatMap String.utf8EncodeChar).take keptBytes

/-- The searchable words of a text as the index keeps them. -/
def terms (s : List Char) : List (List UInt8) :=
  (tokens s).map term

end CardCensus.Text
