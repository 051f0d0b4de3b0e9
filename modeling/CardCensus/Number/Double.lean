/-!
# What a double stands for

`read` takes a double apart into sign, mantissa and exponent, or says that it is infinite or no
number. `orderKey` maps doubles to integers so that the integers compare as the doubles do, with
both zeros equal. `truncate` drops the fraction and stays within the signed integers of 64 bits.

Results:
* `minInt64_le_truncate` and `truncate_le_maxInt64`: truncation stays within its bounds.
-/

namespace CardCensus.Number

/-- The number `mantissa · 2 ^ exponent`, negated when `negative`. -/
structure Dyadic where
  negative : Bool
  mantissa : Nat
  exponent : Int
  deriving Repr, DecidableEq

/-- What a double stands for. -/
inductive Reading where
  /-- No number at all. -/
  | notANumber
  /-- An infinity of the given sign. -/
  | infinite (negative : Bool)
  /-- A number. -/
  | finite (value : Dyadic)
  deriving Repr, DecidableEq

/-- The weight of the sign among the bits of a double. -/
def signWeight : Nat := 0x8000000000000000

/-- The weight of the exponent among the bits of a double, which is also the least mantissa of full
    size. -/
def exponentWeight : Nat := 0x10000000000000

/-- The meaning of the bits of a double. -/
def read (x : Float) : Reading :=
  let bits := x.toBits.toNat
  let negative := signWeight ≤ bits
  let biased := bits / exponentWeight % 0x800
  let fraction := bits % exponentWeight
  if biased = 0x7FF then
    if fraction = 0 then .infinite negative else .notANumber
  else if biased = 0 then .finite ⟨negative, fraction, -1074⟩
  else .finite ⟨negative, exponentWeight + fraction, Int.ofNat biased - 1075⟩

/-- The double is no number. -/
def isNotANumber (x : Float) : Bool :=
  read x == .notANumber

/-- Integers that compare as the doubles do; both zeros have the key zero. -/
def orderKey (x : Float) : Int :=
  let bits := x.toBits.toNat
  if signWeight ≤ bits then -Int.ofNat (bits - signWeight) else Int.ofNat bits

/-- The least signed integer of 64 bits. -/
def minInt64 : Int := -0x8000000000000000

/-- The greatest signed integer of 64 bits. -/
def maxInt64 : Int := 0x7FFFFFFFFFFFFFFF

/-- The integer is a signed integer of 64 bits. -/
def fitsInt64 (n : Int) : Bool :=
  minInt64 ≤ n && n ≤ maxInt64

/-- The nearest signed integer of 64 bits. -/
def clampInt64 (n : Int) : Int :=
  max minInt64 (min maxInt64 n)

/-- The whole part of a dyadic number, its size rounded down. -/
def Dyadic.wholePart (d : Dyadic) : Int :=
  let size : Nat := if 0 ≤ d.exponent then d.mantissa * Nat.pow 2 d.exponent.toNat
    else d.mantissa / Nat.pow 2 (-d.exponent).toNat
  if d.negative then -Int.ofNat size else Int.ofNat size

/-- The dyadic number has no fraction. -/
def Dyadic.isWhole (d : Dyadic) : Bool :=
  0 ≤ d.exponent || d.mantissa % Nat.pow 2 (-d.exponent).toNat == 0

/-- The double is a whole number. -/
def isWhole (x : Float) : Bool :=
  match read x with
  | .finite d => d.isWhole
  | _ => false

/-- The double without its fraction, at most as far from zero as 64 bits allow; zero when it is no
    number. -/
def truncate (x : Float) : Int :=
  match read x with
  | .notANumber => 0
  | .infinite negative => if negative then minInt64 else maxInt64
  | .finite d => clampInt64 d.wholePart

theorem minInt64_le_truncate (x : Float) : minInt64 ≤ truncate x := by
  unfold truncate clampInt64
  split
  · decide
  · split <;> decide
  · omega

theorem truncate_le_maxInt64 (x : Float) : truncate x ≤ maxInt64 := by
  have : minInt64 ≤ maxInt64 := by decide
  unfold truncate clampInt64
  split
  · decide
  · split <;> decide
  · omega

end CardCensus.Number
