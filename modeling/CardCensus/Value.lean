import CardCensus.Number.Notation
import CardCensus.Text.Quoted

/-!
# Cell values

A cell of a table or of an answer holds a text, an integer of 64 bits, a double or nothing.
`Value.display` is its form in a chat line, `Value.quoted` its form in a logged statement.
-/

namespace CardCensus

/-- One cell. -/
inductive Value where
  | text (s : String)
  | integer (n : Int)
  | real (x : Float)
  | null
  deriving DecidableEq, Inhabited

namespace Value

/-- Doubles as plain text: the point always in place. -/
def plainStyle : Number.Style := ⟨none, false, false⟩

/-- Doubles in a logged statement: an exponent below `1e-4` and from `1e16` on. -/
def quotedStyle : Number.Style := ⟨some (-4, 15), true, false⟩

/-- Doubles in a chat line have six decimal places. -/
def displayPlaces : Nat := 6

/-- The cell in a chat line. -/
def display : Value → String
  | text s => s
  | integer n => toString n
  | real x => Number.writePlaces displayPlaces x
  | null => "NULL"

/-- The cell in a logged statement. -/
def quoted : Value → String
  | text s => "Text(" ++ Text.quoted s ++ ")"
  | integer n => "Integer(" ++ toString n ++ ")"
  | real x => "Real(" ++ Number.write quotedStyle x ++ ")"
  | null => "Null"

/-- The cell holds nothing (`is_null`). -/
def isNull : Value → Bool
  | null => true
  | _ => false

/-- The cell as an integer: a double loses its fraction (`as_integer`). -/
def toInteger? : Value → Option Int
  | integer n => some n
  | real x => some (Number.truncate x)
  | _ => none

/-- The cell as a text (`as_text`). -/
def toText? : Value → Option String
  | text s => some s
  | integer n => some (toString n)
  | real x => some (Number.write plainStyle x)
  | null => none

end Value

end CardCensus
