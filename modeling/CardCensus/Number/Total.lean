import CardCensus.Number.Double

/-!
# Totals of numbers

A total of integers stays exact as long as it fits 64 bits. As soon as a double is added, or a total
of integers leaves the 64 bits, it goes on as a double with a running estimate of the rounding
error. A total that left the 64 bits is refused unless a double was added after that.

Results:
* `add_integer_exact`: adding an integer to an exact total is exact as long as the sum fits.
-/

namespace CardCensus.Number

/-- A number to be added. -/
inductive Summand where
  | integer (n : Int)
  | real (x : Float)
  deriving DecidableEq

/-- A running total. -/
inductive Total where
  /-- All summands so far were integers. -/
  | exact (total : Int)
  /-- A rounded total, the estimate of its error, and whether integers alone left the 64 bits. -/
  | rounded (total error : Float) (overflowed : Bool)
  deriving DecidableEq

namespace Total

/-- The integers beyond which a total takes a summand in two parts. -/
def splitBound : Int := 0x10000000000000

/-- The size of the smaller part of a large integer. -/
def splitSize : Int := 0x4000

/-- The rounded total with a double added; the error estimate takes up what was lost. -/
def addReal (total error x : Float) : Float × Float :=
  let next := total + x
  if x.abs < total.abs then (next, error + ((total - next) + x))
  else (next, error + ((x - next) + total))

/-- The rounded total with an integer added, a large one in two parts. -/
def addInteger (total error : Float) (n : Int) : Float × Float :=
  if n ≤ -splitBound ∨ splitBound ≤ n then
    let small := n.tmod splitSize
    let (total, error) := addReal total error (.ofInt (n - small))
    addReal total error (.ofInt small)
  else addReal total error (.ofInt n)

/-- An exact total as a rounded one. -/
def round (n : Int) : Float × Float :=
  if n ≤ -splitBound ∨ splitBound ≤ n then
    let small := n.tmod splitSize
    (.ofInt (n - small), .ofInt small)
  else (.ofInt n, 0)

/-- The total with a summand added. -/
def add : Total → Summand → Total
  | exact total, .integer n =>
    if fitsInt64 (total + n) then exact (total + n)
    else
      let (sum, error) := round total
      let (sum, error) := addInteger sum error n
      rounded sum error true
  | exact total, .real x =>
    let (sum, error) := round total
    let (sum, error) := addReal sum error x
    rounded sum error false
  | rounded total error overflowed, .integer n =>
    let (sum, error) := addInteger total error n
    rounded sum error overflowed
  | rounded total error _, .real x =>
    let (sum, error) := addReal total error x
    rounded sum error false

/-- The total of a list. -/
def ofList (summands : List Summand) : Total :=
  summands.foldl add (exact 0)

/-- A rounded total with its error taken into account. -/
def corrected (total error : Float) : Float :=
  if isNotANumber error then total else total + error

/-- The total as a double. -/
def toReal : Total → Float
  | exact total => .ofInt total
  | rounded total error _ => corrected total error

theorem add_integer_exact {total n : Int} (h : fitsInt64 (total + n) = true) :
    (exact total).add (.integer n) = exact (total + n) := by
  simp [add, h]

end Total

end CardCensus.Number
