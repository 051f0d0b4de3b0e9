import CardCensus.Number.Double

/-!
# Decimal digits of a double

`shortestDigits` finds the fewest decimal digits that read back as the same double and, of these,
the nearest. `fixedPlaces` rounds a double to a number of decimal places, a half going to the even
neighbour.

A double stands for every real number that rounds to it: the reals between the two midpoints to its
neighbours, the midpoints included exactly when its mantissa is even.

Results:
* `le_roundDiv` and `roundDiv_le`: rounding a quotient stays within half a unit.
-/

namespace CardCensus.Number

/-- The decimal digits of a natural number. -/
def decimalDigits (n : Nat) : List Char :=
  Nat.toDigits 10 n

/-- The number `0.d₁d₂… · 10 ^ point`. -/
structure Decimal where
  digits : List Char
  point : Int
  deriving Repr, DecidableEq

/-- The fraction `numerator / denominator`. -/
structure Fraction where
  numerator : Nat
  denominator : Nat
  deriving Repr, DecidableEq

/-- `n · 2 ^ exponent` as a fraction. -/
def Fraction.ofScaled (n : Nat) (exponent : Int) : Fraction :=
  if 0 ≤ exponent then ⟨n * Nat.pow 2 exponent.toNat, 1⟩ else ⟨n, Nat.pow 2 (-exponent).toNat⟩

/-- The fraction times ten to the given power. -/
def Fraction.scaleTen (f : Fraction) (power : Int) : Fraction :=
  if 0 ≤ power then ⟨f.numerator * Nat.pow 10 power.toNat, f.denominator⟩
  else ⟨f.numerator, f.denominator * Nat.pow 10 (-power).toNat⟩

/-- The number of leading zeros after the point of a fraction below one, at most `fuel`. -/
def leadingZeros (numerator denominator : Nat) : Nat → Nat
  | 0 => 0
  | fuel + 1 =>
    if denominator ≤ numerator * 10 then 0 else 1 + leadingZeros (numerator * 10) denominator fuel

/-- The power of ten just above a positive fraction. -/
def Fraction.magnitude (f : Fraction) : Int :=
  let whole := f.numerator / f.denominator
  if whole = 0 then -Int.ofNat (leadingZeros f.numerator f.denominator (f.denominator.log2 + 1))
  else Int.ofNat (decimalDigits whole).length

/-- The reals that round to the double with the given mantissa and exponent, between `low` and
    `high`, all measured in one unit. -/
structure Interval where
  low : Nat
  middle : Nat
  high : Nat
  exponent : Int
  closed : Bool

/-- The interval of a positive double. The neighbour below is nearer when the mantissa is the least
    of its exponent. -/
def Interval.ofDouble (mantissa : Nat) (exponent : Int) : Interval :=
  let below := if mantissa = exponentWeight ∧ -1074 < exponent then 1 else 2
  ⟨4 * mantissa - below, 4 * mantissa, 4 * mantissa + 2, exponent - 2, mantissa % 2 = 0⟩

/-- The multiple `count · 10 ^ grid` lies in the interval. -/
def Interval.holds (i : Interval) (count : Nat) (grid : Int) : Bool :=
  let low := (Fraction.ofScaled i.low i.exponent).scaleTen (-grid)
  let high := (Fraction.ofScaled i.high i.exponent).scaleTen (-grid)
  if i.closed then low.numerator ≤ count * low.denominator &&
    count * high.denominator ≤ high.numerator
  else low.numerator < count * low.denominator && count * high.denominator < high.numerator

/-- The multiple of `10 ^ grid` that lies in the interval, the nearer of the two around
    the middle. -/
def Interval.nearest? (i : Interval) (grid : Int) : Option Nat :=
  let value := (Fraction.ofScaled i.middle i.exponent).scaleTen (-grid)
  let below := value.numerator / value.denominator
  let excess := value.numerator % value.denominator
  match i.holds below grid, i.holds (below + 1) grid with
  | true, true => some (if 2 * excess ≤ value.denominator then below else below + 1)
  | true, false => some below
  | false, true => some (below + 1)
  | false, false => none

/-- The text without zeros at its end. -/
def dropTrailingZeros (digits : List Char) : List Char :=
  (digits.reverse.dropWhile (· == '0')).reverse

/-- The first grid with a hit, from `size` digits upwards. -/
def shortestFrom (i : Interval) (magnitude : Int) : Nat → Nat → Decimal
  | 0, _ => ⟨['0'], magnitude⟩
  | fuel + 1, size =>
    let grid := magnitude - size
    match i.nearest? grid with
    | none => shortestFrom i magnitude fuel (size + 1)
    | some count =>
      let digits := decimalDigits count
      ⟨dropTrailingZeros digits, grid + digits.length⟩

/-- The fewest digits that read back as `mantissa · 2 ^ exponent`. Seventeen always suffice. -/
def shortestDigits (mantissa : Nat) (exponent : Int) : Decimal :=
  if mantissa = 0 then ⟨['0'], 1⟩
  else
    let magnitude := (Fraction.ofScaled mantissa exponent).magnitude
    shortestFrom (.ofDouble mantissa exponent) magnitude 17 1

/-- The quotient rounded to the nearest integer, a half going to the even neighbour. -/
def roundDiv (numerator denominator : Nat) : Nat :=
  let quotient := numerator / denominator
  let twice := 2 * (numerator % denominator)
  if twice < denominator ∨ (twice = denominator ∧ quotient % 2 = 0) then quotient else quotient + 1

theorem le_roundDiv {n d : Nat} (hd : 0 < d) : 2 * n ≤ 2 * (roundDiv n d * d) + d := by
  have h := Nat.div_add_mod n d
  have hlt := Nat.mod_lt n hd
  simp only [roundDiv]
  split
  · rw [Nat.mul_comm (n / d) d]
    omega
  · rw [Nat.add_mul, Nat.mul_comm (n / d) d]
    omega

theorem roundDiv_le {n d : Nat} (hd : 0 < d) : 2 * (roundDiv n d * d) ≤ 2 * n + d := by
  have h := Nat.div_add_mod n d
  have hlt := Nat.mod_lt n hd
  simp only [roundDiv]
  split
  · rw [Nat.mul_comm (n / d) d]
    omega
  · rw [Nat.add_mul, Nat.mul_comm (n / d) d]
    omega

/-- The digits of a dyadic number's size rounded to `places` decimal places, with the point among
    them. -/
def fixedPlaces (places mantissa : Nat) (exponent : Int) : List Char :=
  let value := (Fraction.ofScaled mantissa exponent).scaleTen places
  let digits := decimalDigits (roundDiv value.numerator value.denominator)
  let padded := List.replicate (places + 1 - digits.length) '0' ++ digits
  let whole := padded.length - places
  padded.take whole ++ '.' :: padded.drop whole

end CardCensus.Number
