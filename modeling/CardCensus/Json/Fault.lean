import CardCensus.Number.Notation
import CardCensus.Text.Quoted

/-!
# Errors in a document

A `Fault` says what is wrong and where. The place is kept as the rest of the document and a number
of bytes beyond its start; `place` turns it into a line and a column, both counted in bytes from the
last line break. A fault about data rather than about notation gets its place from the end of the
enclosing record or list; until then it is not settled.
-/

namespace CardCensus.Json

/-- What was found in place of a value of another kind. -/
inductive Found where
  | null
  | boolean (value : Bool)
  | integer (value : Int)
  | real (value : Float)
  | string (text : String)
  | sequence
  | map
  deriving DecidableEq

/-- What is wrong with a document. -/
inductive Cause where
  | endInList
  | endInObject
  | endInString
  | endInValue
  | expectedColon
  | expectedListCommaOrEnd
  | expectedObjectCommaOrEnd
  | expectedIdent
  | expectedValue
  | invalidEscape
  | invalidNumber
  | numberOutOfRange
  | controlCharacter
  | keyMustBeString
  | loneSurrogate
  | endOfHexEscape
  | trailingComma
  | trailingCharacters
  | recursionLimit
  /-- A value of another kind stands there. -/
  | wrongKind (found : Found) (expected : String)
  /-- A record given as a list has too few elements. -/
  | wrongLength (length : Nat) (expected : String)
  | missingField (name : String)
  | duplicateField (name : String)
  /-- A value fits none of the forms of the named type. -/
  | noVariant (typeName : String)
  deriving DecidableEq

/-- Doubles in a document: an exponent below `1e-5` and from `1e16` on, with its sign. -/
def numberStyle : Number.Style := ⟨some (-5, 15), true, true⟩

/-- The wording of what was found. -/
def Found.describe : Found → String
  | null => "null"
  | boolean value => "boolean `" ++ (if value then "true" else "false") ++ "`"
  | integer value => "integer `" ++ toString value ++ "`"
  | real value => "floating point `" ++ Number.write numberStyle value ++ "`"
  | string text => "string " ++ Text.quoted text
  | sequence => "sequence"
  | map => "map"

/-- The wording of a cause. -/
def Cause.message : Cause → String
  | endInList => "EOF while parsing a list"
  | endInObject => "EOF while parsing an object"
  | endInString => "EOF while parsing a string"
  | endInValue => "EOF while parsing a value"
  | expectedColon => "expected `:`"
  | expectedListCommaOrEnd => "expected `,` or `]`"
  | expectedObjectCommaOrEnd => "expected `,` or `\x7d`"
  | expectedIdent => "expected ident"
  | expectedValue => "expected value"
  | invalidEscape => "invalid escape"
  | invalidNumber => "invalid number"
  | numberOutOfRange => "number out of range"
  | controlCharacter => "control character (\\u0000-\\u001F) found while parsing a string"
  | keyMustBeString => "key must be a string"
  | loneSurrogate => "lone leading surrogate in hex escape"
  | endOfHexEscape => "unexpected end of hex escape"
  | trailingComma => "trailing comma"
  | trailingCharacters => "trailing characters"
  | recursionLimit => "recursion limit exceeded"
  | wrongKind found expected => "invalid type: " ++ found.describe ++ ", expected " ++ expected
  | wrongLength length expected => "invalid length " ++ toString length ++ ", expected " ++ expected
  | missingField name => "missing field `" ++ name ++ "`"
  | duplicateField name => "duplicate field `" ++ name ++ "`"
  | noVariant typeName => "data did not match any variant of untagged enum " ++ typeName

/-- A cause with its place: `ahead` bytes into the rest of the document. -/
structure Fault where
  cause : Cause
  rest : List Char
  ahead : Nat := 0
  settled : Bool := true
  deriving DecidableEq

namespace Fault

/-- A fault at the start of the rest. -/
def here (cause : Cause) (rest : List Char) : Fault := { cause, rest }

/-- A fault just behind the next byte, or at the end when there is none. -/
def next (cause : Cause) (rest : List Char) : Fault := { cause, rest, ahead := 1 }

/-- A fault about data whose place is still open. -/
def unsettled (cause : Cause) (rest : List Char) : Fault := { cause, rest, settled := false }

/-- The fault with its place settled once the enclosing value has been closed as far as possible. -/
def settle (fault : Fault) (close : List Char → List Char) : Fault :=
  if fault.settled then fault else { fault with rest := close fault.rest, settled := true }

end Fault

/-- The number of bytes of a text. -/
def byteCount (s : List Char) : Nat :=
  (String.ofList s).utf8ByteSize

/-- The line and the column behind the given number of bytes. -/
def lineAndColumn (text : String) (bytes : Nat) : Nat × Nat :=
  let before := text.toUTF8.toList.take bytes
  let newline := '\n'.toNat.toUInt8
  (1 + before.count newline, (before.reverse.takeWhile (· != newline)).length)

/-- The line and the column of a fault in a document. -/
def Fault.place (fault : Fault) (text : String) : Nat × Nat :=
  lineAndColumn text (byteCount text.toList - byteCount fault.rest + fault.ahead)

/-- The wording of a fault in a document. -/
def Fault.message (fault : Fault) (text : String) : String :=
  let (line, column) := fault.place text
  fault.cause.message ++ " at line " ++ toString line ++ " column " ++ toString column

end CardCensus.Json
