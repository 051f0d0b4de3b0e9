import CardCensus.Number.Integer

/-!
# Values of a settings file

A value is a text, an integer or a truth value. A text stands between single or double quotes; three
quotes let it run over several lines. Between double quotes a backslash starts an escape. An integer
is decimal, hexadecimal, octal or binary, with underscores between its digits.

Every reader takes the rest of a file and returns what it read and what is left, or nothing.
-/

namespace CardCensus.Settings

/-- A value of a settings file. -/
inductive Scalar where
  | text (s : String)
  | integer (n : Int)
  | truth (on : Bool)
  deriving Repr, DecidableEq

/-- Reads something from the start of a text. -/
abbrev Reader (α : Type) := List Char → Option (α × List Char)

/-- A blank within a line. -/
def isSpacing (c : Char) : Bool :=
  c == ' ' || c == '\t'

/-- The character may stand in a comment or a text as it is. -/
def isPlain (c : Char) : Bool :=
  c == '\t' || (' ' ≤ c && c != '\x7f')

/-- The rest behind a line break, if one comes next. -/
def dropNewline? : List Char → Option (List Char)
  | '\n' :: rest => some rest
  | '\r' :: '\n' :: rest => some rest
  | _ => none

/-! ## Texts -/

/-- The characters that a single letter escapes. -/
def simpleEscapes : List (Char × Char) :=
  [('b', '\x08'), ('f', '\x0c'), ('n', '\n'), ('r', '\r'), ('t', '\t'), ('"', '"'), ('\\', '\\')]

/-- The character with the number that the first `size` hexadecimal digits write. -/
def numberedChar? (size : Nat) (s : List Char) : Option Char := do
  let digits := s.take size
  if digits.length < size then none
  let n ← Number.valueIn? 16 digits
  if h : n.isValidChar then some (Char.ofNatAux n h) else none

/-- The character of an escape behind its backslash, and how many characters of the text
    it takes. -/
def readEscape? : List Char → Option (Char × Nat)
  | 'u' :: rest => (numberedChar? 4 rest).map (·, 5)
  | 'U' :: rest => (numberedChar? 8 rest).map (·, 9)
  | letter :: _ => (simpleEscapes.find? (·.1 == letter)).map fun (_, c) => (c, 1)
  | [] => none

/-- The characters of a text on one line behind its opening quote. -/
def readShort (quote : Char) (escapes : Bool) : Reader (List Char)
  | [] => none
  | c :: rest =>
    if c = quote then some ([], rest)
    else if c = '\\' ∧ escapes then
      match readEscape? rest with
      | none => none
      | some (char, size) =>
        (readShort quote escapes (rest.drop size)).map fun (cs, left) => (char :: cs, left)
    else if isPlain c then (readShort quote escapes rest).map fun (cs, left) => (c :: cs, left)
    else none
termination_by s => s.length
decreasing_by all_goals simp only [List.length_cons, List.length_drop]; omega

/-- The rest behind blanks and line breaks. -/
def skipGap : List Char → List Char
  | [] => []
  | '\r' :: '\n' :: rest => skipGap rest
  | c :: rest => if isSpacing c || c == '\n' then skipGap rest else c :: rest

/-- The rest behind a line break that a backslash takes out of a text, with the blanks around it. -/
def dropGap? (s : List Char) : Option (List Char) :=
  (dropNewline? (s.dropWhile isSpacing)).map fun _ => skipGap s

/-- How many quotes close a text over several lines. -/
def closingSize : Nat := 3

/-- How many quotes may come together at the end of such a text: those that close it and
    two more. -/
def greatestRun : Nat := 5

/-- The characters of a text over several lines behind its opening quotes. Of a row of quotes at its
    end the last three close the text. -/
def readLong (quote : Char) (escapes : Bool) : Reader (List Char)
  | [] => none
  | c :: rest =>
    let run := min greatestRun ((c :: rest).takeWhile (· == quote)).length
    if closingSize ≤ run then some (List.replicate (run - closingSize) quote, (c :: rest).drop run)
    else if c = '\\' ∧ escapes then
      match dropGap? rest with
      | some left => (readLong quote escapes (rest.drop (rest.length - left.length)))
      | none => match readEscape? rest with
        | none => none
        | some (char, size) =>
          (readLong quote escapes (rest.drop size)).map fun (cs, left) => (char :: cs, left)
    else if c = '\r' ∧ rest.head? = some '\n' then
      (readLong quote escapes (rest.drop 1)).map fun (cs, left) => ('\n' :: cs, left)
    else if c = '\n' ∨ isPlain c then
      (readLong quote escapes rest).map fun (cs, left) => (c :: cs, left)
    else none
termination_by s => s.length
decreasing_by all_goals simp only [List.length_cons, List.length_drop]; omega

/-- The quotes that texts may stand between, and whether a backslash starts an escape there. -/
def quotes : List (Char × Bool) :=
  [('"', true), ('\'', false)]

/-- A text on one line. -/
def readLine : Reader String
  | [] => none
  | c :: rest => do
    let (quote, escapes) ← quotes.find? (·.1 == c)
    let (cs, left) ← readShort quote escapes rest
    some (String.ofList cs, left)

/-- A text. A line break right behind three opening quotes is no part of it. -/
def readText : Reader String
  | c :: c' :: c'' :: rest =>
    match quotes.find? (·.1 == c) with
    | some (quote, escapes) =>
      if c' = quote ∧ c'' = quote then do
        let (cs, left) ← readLong quote escapes ((dropNewline? rest).getD rest)
        some (String.ofList cs, left)
      else readLine (c :: c' :: c'' :: rest)
    | none => none
  | s => readLine s

/-! ## Integers -/

/-- What may stand between two digits. -/
def digitSeparator : Char := '_'

/-- The digits of a row of digits with single separators between them. -/
def digitsOf? : List Char → Option (List Char)
  | [] => none
  | [c] => if c = digitSeparator then none else some [c]
  | c :: c' :: rest =>
    if c = digitSeparator then none
    else if c' = digitSeparator then (digitsOf? rest).map (c :: ·)
    else (digitsOf? (c' :: rest)).map (c :: ·)

/-- The number of the digits that come next, in the given number system. -/
def readDigits (radix : Nat) : Reader Nat := fun s => do
  let belongs (c : Char) := (Number.digitIn? radix c).isSome || c == digitSeparator
  let digits ← digitsOf? (s.takeWhile belongs)
  let n ← Number.valueIn? radix digits
  some (n, s.dropWhile belongs)

/-- A decimal number. It has no zero before its other digits. -/
def readDecimal : Reader Nat := fun s => do
  let (n, rest) ← readDigits 10 s
  if s.head? = some '0' ∧ rest.length + 1 < s.length then none
  some (n, rest)

/-- The letters behind a zero that announce another number system. -/
def radixLetters : List (Char × Nat) :=
  [('x', 16), ('o', 8), ('b', 2)]

/-- A number with or without a sign. -/
def readSigned : Reader Int
  | '-' :: rest => (readDecimal rest).map fun (n, left) => (-Int.ofNat n, left)
  | '+' :: rest => (readDecimal rest).map fun (n, left) => (Int.ofNat n, left)
  | rest => (readDecimal rest).map fun (n, left) => (Int.ofNat n, left)

/-- A number in any number system. -/
def readNumber : Reader Int
  | '0' :: letter :: rest =>
    match radixLetters.find? (·.1 == letter) with
    | some (_, radix) => (readDigits radix rest).map fun (n, left) => (Int.ofNat n, left)
    | none => readSigned ('0' :: letter :: rest)
  | s => readSigned s

/-- An integer of 64 bits. -/
def readInteger : Reader Int := fun s =>
  (readNumber s).filter fun (n, _) => Number.fitsInt64 n

/-! ## Values -/

/-- A word that stands for a value. -/
def readWord (word : String) (value : Scalar) : Reader Scalar := fun s =>
  (word.toList.isPrefixOf? s).map fun rest => (value, rest)

/-- A value. -/
def readScalar : Reader Scalar := fun s =>
  (readText s).map (fun (text, rest) => (.text text, rest))
    <|> (readInteger s).map (fun (n, rest) => (.integer n, rest))
    <|> readWord "true" (.truth true) s
    <|> readWord "false" (.truth false) s

end CardCensus.Settings
