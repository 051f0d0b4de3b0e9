import CardCensus.Json.Structure
import CardCensus.Number.Integer
import CardCensus.Text.Blank

/-!
# Fields of changing kind

Some fields of an export hold now a number, now a text, now a mark such as `*`. They are read
leniently: what makes no sense counts as absent and is no error.
-/

namespace CardCensus.Export

open CardCensus.Json (Numeral Tree)

/-- A number as an integer of 64 bits: the nearest one when it is whole, none otherwise. -/
def wholeNumber? : Numeral → Option Int
  | .integer n => some (Number.clampInt64 n)
  | .real x => if Number.isWhole x then some (Number.truncate x) else none

/-- An integer, given as a number or as a text (`lenient_integer`). -/
def lenientInteger? : Tree → Option Int
  | .number n => wholeNumber? n
  | .string text => Number.int64? (Text.trim text.toList)
  | _ => none

/-- A number as it is written. -/
def numberText : Numeral → String
  | .integer n => toString n
  | .real x => Number.write Json.numberStyle x

/-- A text, given as such or as a number (`lenient_text`). -/
def lenientText : Tree → String
  | .string text => text
  | .number n => numberText n
  | _ => ""

end CardCensus.Export
