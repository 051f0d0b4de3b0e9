import CardCensus.Number.Decimal

/-!
# Ways to write a double

A `Style` says which numbers are written with their point in place and which with an exponent, and
how. The digits themselves are always the fewest that read back.
-/

namespace CardCensus.Number

/-- How a double is written. -/
structure Style where
  /-- The least and the greatest decimal exponent that are written with the point in place; `none`
      writes every number so. -/
  inPlace : Option (Int × Int)
  /-- A whole number written with its point in place ends in `.0`. -/
  markWhole : Bool
  /-- An exponent that is not negative has a plus sign. -/
  plusExponent : Bool
  deriving Repr, DecidableEq

/-- A decimal with its point in place. -/
def Decimal.inPlace (d : Decimal) (markWhole : Bool) : List Char :=
  let size : Int := d.digits.length
  if d.point ≤ 0 then
    ['0', '.'] ++ List.replicate (-d.point).toNat '0' ++ d.digits
  else if size ≤ d.point then
    d.digits ++ List.replicate (d.point - size).toNat '0' ++ (if markWhole then ['.', '0'] else [])
  else d.digits.take d.point.toNat ++ '.' :: d.digits.drop d.point.toNat

/-- A decimal with one digit before the point and a power of ten. -/
def Decimal.withExponent (d : Decimal) (plusExponent : Bool) : List Char :=
  let exponent := d.point - 1
  let sign := if exponent < 0 then ['-'] else if plusExponent then ['+'] else []
  let fraction := match d.digits.drop 1 with
    | [] => []
    | rest => '.' :: rest
  d.digits.take 1 ++ fraction ++ 'e' :: sign ++ decimalDigits exponent.natAbs

/-- A decimal in the given style. -/
def Decimal.write (d : Decimal) (style : Style) : List Char :=
  match style.inPlace with
  | none => d.inPlace style.markWhole
  | some (least, greatest) =>
    if d.digits = ['0'] ∨ (least ≤ d.point - 1 ∧ d.point - 1 ≤ greatest)
    then d.inPlace style.markWhole
    else d.withExponent style.plusExponent

/-- A sign for negative numbers, zero included. -/
def signText (negative : Bool) : List Char :=
  if negative then ['-'] else []

/-- A double in the given style. -/
def write (style : Style) (x : Float) : String :=
  match read x with
  | .notANumber => "NaN"
  | .infinite negative => String.ofList (signText negative ++ "inf".toList)
  | .finite d =>
    String.ofList (signText d.negative ++ (shortestDigits d.mantissa d.exponent).write style)

/-- A double with a fixed number of decimal places. -/
def writePlaces (places : Nat) (x : Float) : String :=
  match read x with
  | .notANumber => "NaN"
  | .infinite negative => String.ofList (signText negative ++ "inf".toList)
  | .finite d => String.ofList (signText d.negative ++ fixedPlaces places d.mantissa d.exponent)

end CardCensus.Number
