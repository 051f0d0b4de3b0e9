import CardCensus.Number.Double
import Mathlib.Data.Rat.Cast.Order
import Mathlib.Order.Monotone.Basic
import Mathlib.Tactic.Ring

/-!
# Doubles in the order of their numbers

A finite double is a whole multiple of the least double above zero. How many times it contains that
unit grows with its bits, from each double to the next, and an infinity has greater bits than every
number. So the key of a double, which is no more than its bits with a sign, compares doubles as the
numbers that they stand for.

Results:
* `units_strictMono`: a double with greater bits contains more units.
* `toRat_eq`: the number of a finite double, counted in units.
* `orderKey_lt_iff`: keys compare as the numbers do.
-/

namespace CardCensus.Number

/-- The number that a dyadic number stands for. -/
def Dyadic.toRat (d : Dyadic) : ℚ :=
  (if d.negative then -1 else 1) * d.mantissa * 2 ^ d.exponent

/-- The first is the lesser number, an infinity lying beyond all others on its side. -/
def Reading.Below : Reading → Reading → Prop
  | finite a, finite b => a.toRat < b.toRat
  | finite _, infinite negative => negative = false
  | infinite negative, finite _ => negative = true
  | infinite first, infinite second => first = true ∧ second = false
  | notANumber, _ | _, notANumber => False

/-! ## Sign and magnitude -/

/-- The bits of a double without the one of its sign. -/
def magnitude (x : Float) : Nat :=
  x.toBits.toNat % signWeight

/-- The bit of the sign is set. -/
def isNegative (x : Float) : Bool :=
  signWeight ≤ x.toBits.toNat

/-- A double is its bits. -/
theorem eq_of_toBits_eq {x y : Float} (h : x.toBits = y.toBits) : x = y := by
  obtain ⟨⟨bits, hvalid⟩⟩ := x
  obtain ⟨⟨_, _⟩⟩ := y
  obtain rfl : bits = _ := h
  rfl

theorem orderKey_eq (x : Float) : orderKey x = if isNegative x then -(magnitude x : Int)
    else magnitude x := by
  have hbits : x.toBits.toNat < 2 * signWeight := x.toBits.toNat_lt
  unfold orderKey isNegative magnitude
  by_cases h : signWeight ≤ x.toBits.toNat
  · have hmod : x.toBits.toNat % signWeight = x.toBits.toNat - signWeight := by
      rw [Nat.mod_eq_sub_mod h, Nat.mod_eq_of_lt (by omega)]
    simp only [h, decide_true, if_true, hmod, Int.ofNat_eq_natCast]
  · simp only [h, decide_false, if_false, Bool.false_eq_true, Nat.mod_eq_of_lt (Nat.lt_of_not_le h),
      Int.ofNat_eq_natCast]

/-- What a double stands for, by its sign and its magnitude. -/
theorem read_eq (x : Float) : read x =
    if magnitude x / exponentWeight = 0x7FF then
      if magnitude x % exponentWeight = 0 then .infinite (isNegative x) else .notANumber
    else if magnitude x / exponentWeight = 0
      then .finite ⟨isNegative x, magnitude x % exponentWeight, -1074⟩
    else .finite ⟨isNegative x, exponentWeight + magnitude x % exponentWeight,
      Int.ofNat (magnitude x / exponentWeight) - 1075⟩ := by
  have hexponent : x.toBits.toNat / exponentWeight % 0x800 = magnitude x / exponentWeight := by
    unfold magnitude signWeight exponentWeight
    omega
  have hfraction : x.toBits.toNat % exponentWeight = magnitude x % exponentWeight := by
    unfold magnitude signWeight exponentWeight
    omega
  unfold read isNegative
  simp only [hexponent, hfraction]

/-! ## Units -/

/-- How many units the double with the given magnitude contains. -/
def units (magnitude : Nat) : Nat :=
  if magnitude / exponentWeight = 0 then magnitude % exponentWeight
  else (exponentWeight + magnitude % exponentWeight) * 2 ^ (magnitude / exponentWeight - 1)

/-- How many units the double with the given key contains. -/
def signedUnits (key : Int) : Int :=
  if 0 ≤ key then units key.toNat else -units (-key).toNat

theorem units_lt_succ (n : Nat) : units n < units (n + 1) := by
  unfold units exponentWeight
  by_cases hcarry : n % 0x10000000000000 + 1 = 0x10000000000000
  · -- The fraction overflows into the exponent: from here on doubles are twice as far apart.
    have hdiv : (n + 1) / 0x10000000000000 = n / 0x10000000000000 + 1 := by omega
    have hmod : (n + 1) % 0x10000000000000 = 0 := by omega
    rw [hdiv, hmod, if_neg (Nat.succ_ne_zero (n / 0x10000000000000)), Nat.add_sub_cancel,
      Nat.add_zero]
    split
    · rename_i hzero
      rw [hzero]
      omega
    · rename_i hpos
      obtain ⟨k, hk⟩ := Nat.exists_eq_succ_of_ne_zero hpos
      rw [hk, Nat.succ_sub_one, Nat.succ_eq_add_one, Nat.pow_succ, Nat.mul_comm (2 ^ k) 2,
        ← Nat.mul_assoc]
      exact Nat.mul_lt_mul_of_pos_right (by omega) (Nat.two_pow_pos k)
  · have hdiv : (n + 1) / 0x10000000000000 = n / 0x10000000000000 := by omega
    have hmod : (n + 1) % 0x10000000000000 = n % 0x10000000000000 + 1 := by omega
    rw [hdiv, hmod]
    split
    · omega
    · exact Nat.mul_lt_mul_of_pos_right (by omega) (Nat.two_pow_pos _)

theorem units_strictMono : StrictMono units :=
  strictMono_nat_of_lt_succ units_lt_succ

theorem units_zero : units 0 = 0 := by decide

theorem signedUnits_lt {a b : Int} (h : a < b) : signedUnits a < signedUnits b := by
  unfold signedUnits
  split <;> split
  · exact Int.ofNat_lt.mpr (units_strictMono (by omega))
  · omega
  · have hpos : units 0 < units (-a).toNat := units_strictMono (by omega)
    rw [units_zero] at hpos
    omega
  · have hlt : units (-b).toNat < units (-a).toNat := units_strictMono (by omega)
    omega

theorem signedUnits_lt_iff {a b : Int} : signedUnits a < signedUnits b ↔ a < b :=
  StrictMono.lt_iff_lt (f := signedUnits) fun _ _ => signedUnits_lt

theorem signedUnits_orderKey (x : Float) :
    signedUnits (orderKey x) = if isNegative x then -(units (magnitude x) : Int)
      else units (magnitude x) := by
  rw [orderKey_eq]
  unfold signedUnits
  cases isNegative x with
  | false => simp
  | true =>
    by_cases hzero : magnitude x = 0
    · simp [hzero, units_zero]
    · have hneg : ¬ 0 ≤ -(magnitude x : Int) := by omega
      rw [if_pos rfl, if_neg hneg, if_pos rfl, Int.neg_neg, Int.toNat_natCast]

/-- The number of a finite double, counted in units. -/
theorem toRat_eq {x : Float} {d : Dyadic} (h : read x = .finite d) :
    d.toRat = signedUnits (orderKey x) * 2 ^ (-1074 : Int) := by
  rw [signedUnits_orderKey]
  rw [read_eq] at h
  split_ifs at h with hexponent hfraction hzero
  · obtain rfl := Reading.finite.inj h
    unfold Dyadic.toRat units
    rw [if_pos hzero]
    generalize magnitude x % exponentWeight = fraction
    cases isNegative x <;> simp
  · obtain rfl := Reading.finite.inj h
    obtain ⟨k, hk⟩ := Nat.exists_eq_succ_of_ne_zero hzero
    have hexp : Int.ofNat (k + 1) - 1075 = (k : Int) + -1074 := by
      rw [Int.ofNat_eq_natCast]
      omega
    have hpow : (2 : ℚ) ^ (Int.ofNat (k + 1) - 1075) = 2 ^ k * 2 ^ (-1074 : Int) := by
      rw [hexp, zpow_add₀ two_ne_zero, zpow_natCast]
    unfold Dyadic.toRat units
    rw [hk, if_neg k.succ_ne_zero, Nat.succ_sub_one, Nat.succ_eq_add_one, hpow]
    generalize magnitude x % exponentWeight = fraction
    generalize (2 : ℚ) ^ (-1074 : Int) = unit
    cases isNegative x <;> simp <;> ring

/-! ## Order -/

theorem natAbs_orderKey (x : Float) : (orderKey x).natAbs = magnitude x := by
  rw [orderKey_eq]
  split <;> simp

/-- The magnitude of an infinity. -/
def infinity : Nat := 0x7FF * exponentWeight

theorem magnitude_lt {x : Float} {d : Dyadic} (h : read x = .finite d) :
    magnitude x < infinity := by
  have hbound : magnitude x < signWeight := Nat.mod_lt _ (by decide)
  rw [read_eq] at h
  unfold infinity
  unfold signWeight exponentWeight at *
  split_ifs at h <;> omega

theorem orderKey_of_infinite {x : Float} {negative : Bool} (h : read x = .infinite negative) :
    orderKey x = if negative then -(infinity : Int) else infinity := by
  rw [read_eq] at h
  split_ifs at h with hexponent hfraction
  have hmagnitude : magnitude x = infinity := by
    unfold infinity exponentWeight at *
    omega
  rw [orderKey_eq, hmagnitude, Reading.infinite.inj h]

/-- **Main theorem.** The keys of doubles compare as the numbers that the doubles stand for. -/
theorem orderKey_lt_iff {x y : Float} (hx : isNotANumber x = false) (hy : isNotANumber y = false) :
    orderKey x < orderKey y ↔ (read x).Below (read y) := by
  have hinfinity : 0 < infinity := by decide
  have hkey := natAbs_orderKey
  cases hreadx : read x with
  | notANumber => simp [isNotANumber, hreadx] at hx
  | infinite first =>
    have hkeyx := orderKey_of_infinite hreadx
    cases hready : read y with
    | notANumber => simp [isNotANumber, hready] at hy
    | infinite second =>
      have hkeyy := orderKey_of_infinite hready
      cases first <;> cases second <;> simp [Reading.Below] at * <;> omega
    | finite b =>
      have hsmall := magnitude_lt hready
      rw [← hkey y] at hsmall
      cases first <;> simp [Reading.Below] at * <;> omega
  | finite a =>
    have hsmallx := magnitude_lt hreadx
    rw [← hkey x] at hsmallx
    cases hready : read y with
    | notANumber => simp [isNotANumber, hready] at hy
    | infinite second =>
      have hkeyy := orderKey_of_infinite hready
      cases second <;> simp [Reading.Below] at * <;> omega
    | finite b =>
      have hunit : (0 : ℚ) < 2 ^ (-1074 : Int) := zpow_pos two_pos _
      rw [Reading.Below, toRat_eq hreadx, toRat_eq hready, mul_lt_mul_iff_of_pos_right hunit,
        Int.cast_lt,
        signedUnits_lt_iff]

end CardCensus.Number
