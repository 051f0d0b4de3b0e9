import CardCensus.Json.Fault
import CardCensus.Number.Integer

/-!
# Strings, numbers and words of a document

Each reader takes the rest of a document and returns what it read and what is left, or a fault.
Numbers are read digit by digit: up to 64 bits of the digits are kept, the rest only moves the
point, and a number with a point or an exponent is the kept digits times a power of ten in double
arithmetic.
-/

namespace CardCensus.Json

open CardCensus.Number (digitValue)

/-- Reads a value from the start of a text. -/
abbrev Reader (α : Type) := List Char → Except Fault (α × List Char)

/-- The white space of a document. -/
def isSpace (c : Char) : Bool :=
  c == ' ' || c == '\n' || c == '\t' || c == '\r'

/-- The rest behind white space. -/
def skipSpace (s : List Char) : List Char :=
  s.dropWhile isSpace

/-- The rest behind the given letters. -/
def skipLetters : List Char → List Char → Except Fault (List Char)
  | [], s => .ok s
  | _ :: _, [] => .error (.here .endInValue [])
  | expected :: letters, c :: rest =>
    if c = expected then skipLetters letters rest else .error (.next .expectedIdent (c :: rest))

/-! ## Strings -/

/-- The number of the four hexadecimal digits that come next. -/
def readHex (s : List Char) : Except Fault Nat :=
  if byteCount (s.take 4) < 4 then .error (.here .endInString [])
  else match Number.valueIn? 16 (s.take 4) with
    | some n => .ok n
    | none => .error { cause := .invalidEscape, rest := s, ahead := 4 }

/-- The number is the first half of a pair of escapes. -/
def isLeading (n : Nat) : Bool := 0xD800 ≤ n && n ≤ 0xDBFF

/-- The number is the second half of a pair of escapes. -/
def isTrailing (n : Nat) : Bool := 0xDC00 ≤ n && n ≤ 0xDFFF

/-- The character of a pair of escapes. -/
def pairChar (leading trailing : Nat) : Char :=
  Char.ofNat (0x10000 + (leading - 0xD800) * 0x400 + (trailing - 0xDC00))

/-- The character of a numeric escape behind its letter, and how many characters of the text it
    takes. -/
def readNumericEscape (s : List Char) : Except Fault (Char × Nat) := do
  let first ← readHex s
  if isTrailing first then throw (.here .loneSurrogate (s.drop 4))
  if !isLeading first then return (Char.ofNat first, 4)
  match s.drop 4 with
  | [] => throw (.here .endInString [])
  | '\\' :: [] => throw (.here .endInString [])
  | '\\' :: 'u' :: rest =>
    let second ← readHex rest
    if isTrailing second then return (pairChar first second, 10)
    throw (.here .loneSurrogate (rest.drop 4))
  | '\\' :: rest => throw (.next .endOfHexEscape rest)
  | rest => throw (.next .endOfHexEscape rest)

/-- The characters that a single letter escapes. -/
def simpleEscapes : List (Char × Char) :=
  [('"', '"'), ('\\', '\\'), ('/', '/'), ('b', '\x08'), ('f', '\x0c'), ('n', '\n'), ('r', '\r'),
    ('t', '\t')]

/-- The character of an escape behind its backslash, and how many characters of the text
    it takes. -/
def readEscape : List Char → Except Fault (Char × Nat)
  | [] => .error (.here .endInString [])
  | c :: rest =>
    if c = 'u' then (readNumericEscape rest).map fun (char, size) => (char, size + 1)
    else match simpleEscapes.find? (·.1 == c) with
      | some (_, char) => .ok (char, 1)
      | none => .error (.next .invalidEscape (c :: rest))

/-- The character cannot stand in a string as it is. -/
def isControl (c : Char) : Bool := c.toNat < 0x20

/-- The characters of a string behind its opening quote. -/
def readCharacters : List Char → Except Fault (List Char × List Char)
  | [] => .error (.here .endInString [])
  | c :: rest =>
    if c = '"' then .ok ([], rest)
    else if c = '\\' then
      match readEscape rest with
      | .error fault => .error fault
      | .ok (char, size) =>
        (readCharacters (rest.drop size)).map fun (chars, left) => (char :: chars, left)
    else if isControl c then .error (.next .controlCharacter (c :: rest))
    else (readCharacters rest).map fun (chars, left) => (c :: chars, left)
termination_by s => s.length
decreasing_by all_goals simp only [List.length_cons, List.length_drop]; omega

/-- A string behind its opening quote. -/
def readString : Reader String := fun s =>
  (readCharacters s).map fun (chars, rest) => (String.ofList chars, rest)

/-- How many characters of the text an escape behind its backslash takes when nobody reads it. -/
def skipEscape : List Char → Except Fault Nat
  | [] => .error (.here .endInString [])
  | c :: rest =>
    if c = 'u' then (readHex rest).map fun _ => 5
    else match simpleEscapes.find? (·.1 == c) with
      | some _ => .ok 1
      | none => .error (.next .invalidEscape (c :: rest))

/-- The rest behind a string that nobody reads, from behind its opening quote. -/
def skipString : List Char → Except Fault (List Char)
  | [] => .error (.here .endInString [])
  | c :: rest =>
    if c = '"' then .ok rest
    else if c = '\\' then
      match skipEscape rest with
      | .error fault => .error fault
      | .ok size => skipString (rest.drop size)
    else if isControl c then .error (.here .controlCharacter (c :: rest))
    else skipString rest
termination_by s => s.length
decreasing_by all_goals simp only [List.length_cons, List.length_drop]; omega

/-! ## Numbers -/

/-- A number of a document. -/
inductive Numeral where
  | integer (n : Int)
  | real (x : Float)
  deriving DecidableEq

/-- The greatest number of 64 bits. -/
def maxKept : Nat := 0xFFFFFFFFFFFFFFFF

/-- The kept digits with the digits that come next, as long as they fit 64 bits. -/
def absorb (kept : Nat) : List Char → Nat × List Char
  | [] => (kept, [])
  | c :: rest =>
    if c.isDigit && kept * 10 + digitValue c ≤ maxKept then absorb (kept * 10 + digitValue c) rest
    else (kept, c :: rest)

/-- The rest starts with a digit. -/
def startsWithDigit : List Char → Bool
  | [] => false
  | c :: _ => c.isDigit

/-- The rest starts with an exponent. -/
def startsWithExponent : List Char → Bool
  | [] => false
  | c :: _ => c == 'e' || c == 'E'

/-- A power of ten as a double. -/
def powerOfTen (n : Nat) : Float :=
  Float.ofScientific 1 false n

/-- The greatest power of ten that is a double. -/
def maxPower : Nat := 308

/-- The double times ten to the given power, in steps that a double can take. No double is that
    large when nothing is returned. -/
def scaleTen (x : Float) (exponent : Int) : Option Float :=
  if exponent.natAbs ≤ maxPower then
    if 0 ≤ exponent then
      let scaled := x * powerOfTen exponent.natAbs
      if scaled.isInf then none else some scaled
    else some (x / powerOfTen exponent.natAbs)
  else if x == 0 then some x
  else if 0 ≤ exponent then none
  else scaleTen (x / powerOfTen maxPower) (exponent + maxPower)
termination_by exponent.natAbs
decreasing_by
  simp only [maxPower] at *
  omega

/-- The number with the given digits and exponent. -/
def numberOfParts (positive : Bool) (kept : Nat) (exponent : Int) (rest : List Char) :
    Except Fault (Numeral × List Char) :=
  match scaleTen (Float.ofNat kept) exponent with
  | none => .error (.here .numberOutOfRange rest)
  | some x => .ok (.real (if positive then x else -x), rest)

/-- The greatest exponent that is read. -/
def maxExponent : Nat := 0x7FFFFFFF

/-- The digits of an exponent with those that come next, as long as they are within its bounds. -/
def absorbExponent (kept : Nat) : List Char → Nat × List Char
  | [] => (kept, [])
  | c :: rest =>
    if c.isDigit && kept * 10 + digitValue c ≤ maxExponent
    then absorbExponent (kept * 10 + digitValue c) rest
    else (kept, c :: rest)

/-- The sign of an exponent, positive unless a minus stands there. -/
def exponentSign : List Char → Bool × List Char
  | '+' :: rest => (true, rest)
  | '-' :: rest => (false, rest)
  | rest => (true, rest)

/-- The number with the given digits, from behind the letter of its exponent. -/
def readExponent (positive : Bool) (kept : Nat) (start : Int) (s : List Char) :
    Except Fault (Numeral × List Char) :=
  let (up, digits) := exponentSign s
  match digits with
  | [] => .error (.here .endInValue [])
  | c :: _ =>
    if !c.isDigit then .error (.next .invalidNumber digits)
    else
      let (exponent, rest) := absorbExponent 0 digits
      if startsWithDigit rest then
        if kept ≠ 0 ∧ up then .error (.next .numberOutOfRange rest)
        else .ok (.real (if positive then 0 else -0), rest.dropWhile Char.isDigit)
      else numberOfParts positive kept (if up then start + exponent else start - exponent) rest

/-- The number with the given digits, from where an exponent may start. -/
def finishReal (positive : Bool) (kept : Nat) (exponent : Int) (s : List Char) :
    Except Fault (Numeral × List Char) :=
  if startsWithExponent s then readExponent positive kept exponent (s.drop 1)
  else numberOfParts positive kept exponent s

/-- The number with the given digits, from behind its point. -/
def readDecimals (positive : Bool) (kept : Nat) (start : Int) (s : List Char) :
    Except Fault (Numeral × List Char) :=
  let (digits, rest) := absorb kept s
  let exponent := start - Int.ofNat (s.length - rest.length)
  if startsWithDigit rest then finishReal positive digits exponent (rest.dropWhile Char.isDigit)
  else if rest.length = s.length then
    if s.isEmpty then .error (.here .endInValue []) else .error (.next .invalidNumber s)
  else finishReal positive digits exponent rest

/-- The double nearest to minus the given number, for numbers that are no negative integer of 64
    bits. -/
def negatedReal (kept : Nat) : Float := -Float.ofNat kept

/-- The number with the given digits, from behind its whole part; `skipped` digits were not kept. -/
def finishNumber (positive : Bool) (kept skipped : Nat) (s : List Char) :
    Except Fault (Numeral × List Char) :=
  match s with
  | '.' :: rest => readDecimals positive kept skipped rest
  | _ =>
    if skipped ≠ 0 || startsWithExponent s then finishReal positive kept skipped s
    else if positive then .ok (.integer kept, s)
    else if kept = 0 ∨ 0x8000000000000000 < kept then .ok (.real (negatedReal kept), s)
    else .ok (.integer (-Int.ofNat kept), s)

/-- A number behind its sign. -/
def readUnsigned (positive : Bool) (s : List Char) : Except Fault (Numeral × List Char) :=
  match s with
  | [] => .error (.here .endInValue [])
  | '0' :: rest =>
    if startsWithDigit rest then .error (.next .invalidNumber rest)
    else finishNumber positive 0 0 rest
  | c :: _ =>
    if !c.isDigit then .error (.next .invalidNumber s)
    else
      let (kept, rest) := absorb 0 s
      let left := rest.dropWhile Char.isDigit
      finishNumber positive kept (rest.length - left.length) left

/-- A number, from its sign or its first digit. -/
def readNumber : Reader Numeral
  | '-' :: rest => readUnsigned false rest
  | s => readUnsigned true s

/-- The rest behind digits and at least one of them. -/
def skipDecimals (s : List Char) : Except Fault (List Char) :=
  if startsWithDigit s then .ok (s.dropWhile Char.isDigit) else .error (.next .invalidNumber s)

/-- The rest behind an exponent, from behind its letter. -/
def skipExponent (s : List Char) : Except Fault (List Char) :=
  skipDecimals (exponentSign s).2

/-- The rest behind an exponent, if there is one. -/
def skipOptionalExponent (s : List Char) : Except Fault (List Char) :=
  if startsWithExponent s then skipExponent (s.drop 1) else .ok s

/-- The rest behind the point and the exponent of a number. -/
def skipFraction : List Char → Except Fault (List Char)
  | '.' :: rest => do skipOptionalExponent (← skipDecimals rest)
  | s => skipOptionalExponent s

/-- The rest behind a number that nobody reads, from behind its sign. -/
def skipUnsigned : List Char → Except Fault (List Char)
  | [] => .error (.here .invalidNumber [])
  | '0' :: rest =>
    if startsWithDigit rest then .error (.next .invalidNumber rest) else skipFraction rest
  | c :: rest =>
    if c.isDigit then skipFraction (rest.dropWhile Char.isDigit)
    else .error (.next .invalidNumber (c :: rest))

/-- The rest behind a number that nobody reads. -/
def skipNumber : List Char → Except Fault (List Char)
  | '-' :: rest => skipUnsigned rest
  | s => skipUnsigned s

end CardCensus.Json
