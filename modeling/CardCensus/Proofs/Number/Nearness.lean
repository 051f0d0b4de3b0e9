import CardCensus.Proofs.Number.Sums

/-!
# Doubles near a number

A number that is at least one is rounded to a double that is as near to it as the size of the
mantissa allows, or to an infinity if it reaches the end of the doubles. Powers of two stay below
what they were below. The product of two doubles is near the product of what they stand for, and a
power of ten is near what it says. A double beyond the 64 bits of the integers is whole, and is cut
to the last of them.

Results:
* `isNear_roundWithAccuracy`: what a number is rounded to is near it.
* `isNear_mul`, `mul_cases`: a product of doubles is near the product of what they stand for.
* `isNear_ofNat`, `isNear_powerOfTen`: whole numbers and powers of ten as doubles.
* `isWhole_of_le`, `truncate_of_le`: doubles beyond the integers of 64 bits.
-/

namespace CardCensus.Number

open Float.Model (UnpackedFloat Format)
open Float.Model.UnpackedFloat

/-- The part of a number by which rounding may change it. -/
def unitRoundoff : ℚ := 2⁻¹ ^ 52

/-- A mantissa and an exponent that a number is rounded to: they differ from it by a small part of
    it, they lie before the end of the doubles, and each power of two below the number is still
    below them. -/
structure IsClose (x : ℚ) (m : Nat) (e : Int) : Prop where
  error : |value m e - x| ≤ unitRoundoff * x
  finite : value m e < 2 ^ 1024
  powers : ∀ b : Int, 2 ^ b ≤ x → 2 ^ b ≤ value m e

/-- The parts are what a number is rounded to. They are infinite only if the number reaches the end
    of the doubles. -/
def IsNear (x : ℚ) : UnpackedFloat → Prop
  | .infinity s => s = .positive ∧ 2 ^ 1024 ≤ (1 + unitRoundoff) * x
  | .finite s m e _ => s = .positive ∧ IsClose x m e
  | .notANumber | .zero _ => False

theorem IsClose.bounds {x : ℚ} {m : Nat} {e : Int} (h : IsClose x m e) :
    (1 - unitRoundoff) * x ≤ value m e ∧ value m e ≤ (1 + unitRoundoff) * x := by
  have herror := abs_le.mp h.error
  constructor <;> linarith

/-- What is near a number that does not reach the end of the doubles is finite. -/
theorem IsNear.exists_finite {x : ℚ} {f : UnpackedFloat} (h : IsNear x f)
    (hx : (1 + unitRoundoff) * x < 2 ^ 1024) :
    ∃ m e hm, f = .finite .positive m e hm ∧ IsClose x m e := by
  cases f with
  | notANumber | zero => exact h.elim
  | infinity => exact absurd hx (not_lt.mpr h.2)
  | finite s m e hm =>
    obtain ⟨rfl, hclose⟩ := h
    exact ⟨m, e, hm, rfl, hclose⟩

/-! ## Rounding -/

section

variable {m : Nat} {e : Int}

/-- Rounding changes a number by no more than the last place counts. -/
theorem abs_rounded_sub_le (he : e ≤ target m e) :
    |value (shifted m (target m e - e).toNat).roundedMantissa (target m e) - value m e| ≤
      2 ^ target m e := by
  have hexponent : e + (target m e - e).toNat = target m e := by omega
  obtain ⟨hlow, hhigh⟩ := roundedMantissa_bounds (shifted m (target m e - e).toNat)
  have hbit := Bool.toNat_le (shifted m (target m e - e).toNat).roundBit
  rw [mantissa_shifted] at hlow hhigh
  generalize (shifted m (target m e - e).toNat).roundedMantissa = r at *
  generalize (target m e - e).toNat = k at *
  rw [← hexponent, ← value_mul_two_pow, ← value_two_pow, abs_le]
  have hbelow : m ≤ r * 2 ^ k + 2 ^ k :=
    calc m = m / 2 ^ k * 2 ^ k + m % 2 ^ k := (Nat.div_add_mod' m _).symm
      _ ≤ r * 2 ^ k + 2 ^ k :=
        Nat.add_le_add (Nat.mul_le_mul_right _ hlow) (Nat.mod_lt m (Nat.two_pow_pos k)).le
  have habove : r * 2 ^ k ≤ m + 2 ^ k :=
    calc r * 2 ^ k ≤ (m / 2 ^ k + 1) * 2 ^ k := Nat.mul_le_mul_right _ (by omega)
      _ = m / 2 ^ k * 2 ^ k + 2 ^ k := Nat.add_one_mul _ _
      _ ≤ m + 2 ^ k := Nat.add_le_add_right (Nat.div_mul_le_self m _) _
  have hsum : ∀ a b : Nat, value (a + b) e = value a e + value b e := fun a b => by
    simp only [value, Nat.cast_add, add_mul]
  have hbelow' := value_le_iff (e := e) |>.mpr hbelow
  have habove' := value_le_iff (e := e) |>.mpr habove
  rw [hsum] at hbelow' habove'
  constructor <;> linarith

/-- The last place counts a small part of a number. -/
theorem two_pow_target_le (hm : 0 < m) (h : target m e ≠ -1074) :
    2 ^ target m e ≤ unitRoundoff * value m e := by
  have htarget : target m e = (m.log2 + e : Int) + (-52) := by
    unfold target at *
    omega
  have hpower : (2 : ℚ) ^ (-52 : Int) = unitRoundoff := by norm_num [unitRoundoff]
  rw [htarget, zpow_add₀ two_ne_zero, hpower, mul_comm]
  exact mul_le_mul_of_nonneg_left (le_value hm e) (by norm_num [unitRoundoff])

/-- A power of two is not rounded past. -/
theorem two_pow_le_rounded (hm : 0 < m) (he : e ≤ target m e) (hleast : target m e ≠ -1074)
    {b : Int}
    (h : 2 ^ b ≤ value m e) :
    2 ^ b ≤ value (shifted m (target m e - e).toNat).roundedMantissa (target m e) := by
  have hfull := (rounded_bounds hm he).2 hleast
  have hb : b < (m.log2 + 1 + e : Int) :=
    (zpow_lt_zpow_iff_right₀ (one_lt_two (α := ℚ))).mp (h.trans_lt (value_lt m e))
  have hle : b ≤ target m e + (52 : Nat) := by
    unfold target
    omega
  exact (zpow_le_zpow_right₀ one_le_two hle).trans
    (value_two_pow 52 (target m e) ▸ value_le_iff.mpr hfull)

/-- What a number that is at least one is rounded to is near it. -/
theorem isNear_roundWithAccuracy (hm : 0 < m) (he : e ≤ target m e) (h : 1 ≤ value m e) :
    IsNear (value m e) (unpacked (packed (roundWithAccuracy .binary64 .positive m e .exact))) := by
  obtain ⟨q, p, hround, hrounded, hvalue, hfull⟩ := exists_roundWithAccuracy .positive hm he
  have hleast : target m e ≠ -1074 := by
    have hlog : (0 : Int) < m.log2 + 1 + e := by
      rw [← zpow_lt_zpow_iff_right₀ (one_lt_two (α := ℚ)), zpow_zero]
      exact h.trans_lt (value_lt m e)
    unfold target
    omega
  have herror := (abs_rounded_sub_le he).trans (two_pow_target_le hm hleast)
  have hpowers : ∀ b : Int, 2 ^ b ≤ value m e → 2 ^ b ≤ value q p := fun b hb =>
    hvalue ▸ two_pow_le_rounded hm he hleast hb
  obtain ⟨hq, -⟩ := hfull hleast
  rw [← hvalue] at herror
  rw [hround, ofParts, dif_neg (by omega)]
  -- A mantissa of full size behind the last exponent counts at least `2 ^ 1024`.
  by_cases hp : 971 < p
  · rw [unpacked_packed_of_lt hp]
    refine ⟨rfl, ?_⟩
    have hexponent : (1024 : Int) ≤ p + (52 : Nat) := by omega
    calc (2 : ℚ) ^ 1024 = 2 ^ (1024 : Int) := (zpow_natCast 2 1024).symm
      _ ≤ 2 ^ (p + (52 : Nat)) := zpow_le_zpow_right₀ one_le_two hexponent
      _ ≤ value q p := value_two_pow 52 p ▸ value_le_iff.mpr hq
      _ ≤ value m e + unitRoundoff * value m e := by linarith [(abs_le.mp herror).2]
      _ = (1 + unitRoundoff) * value m e := by ring
  · rw [unpacked_packed_finite hrounded (not_lt.mp hp)]
    refine ⟨rfl, herror, ?_, hpowers⟩
    have hsmall : value q p < value (2 ^ 53) p := lt_of_not_ge fun hge =>
      absurd (value_le_iff.mp hge) (not_le.mpr hrounded.size)
    rw [value_two_pow] at hsmall
    exact hsmall.trans_le
      ((zpow_le_zpow_right₀ one_le_two (by push_cast; omega)).trans_eq (zpow_natCast 2 1024))

/-- What a number is stored as is close to it. -/
theorem isClose_of_value_eq {x : ℚ} (hx : 0 ≤ x) (hlarge : x < 2 ^ 1024) (h : value m e = x) :
    IsClose x m e := by
  have hsmall : (0 : ℚ) ≤ unitRoundoff := by norm_num [unitRoundoff]
  refine ⟨?_, h ▸ hlarge, fun b hb => h ▸ hb⟩
  rw [h, sub_self, abs_zero]
  exact mul_nonneg hsmall hx

end

/-! ## Products -/

section

variable {x y : Float} {m n : Nat} {e f : Int} {hm : 0 < m} {hn : 0 < n}

/-- A double that is at least one has a mantissa of full size. -/
theorem two_pow_le_mantissa {s : Sign} (hx : unpacked x = .finite s m e hm) (h : 1 ≤ value m e) :
    2 ^ 52 ≤ m := by
  have hstored := isStored_unpacked x
  rw [hx] at hstored
  refine hstored.1.full.resolve_right ?_
  rintro rfl
  have hsmall : value m (-1074) ≤ 2 ^ (-1074 + (53 : Nat) : Int) :=
    value_two_pow 53 (-1074) ▸ value_le_iff.mpr hstored.1.size.le
  have hone : (2 : ℚ) ^ (-1074 + (53 : Nat) : Int) < 1 :=
    zpow_lt_one_of_neg₀ one_lt_two (by norm_num)
  linarith

/-- The product of two doubles that are at least one is near the product of what they stand for. -/
theorem isNear_mul (hx : unpacked x = .finite .positive m e hm)
    (hy : unpacked y = .finite .positive n f hn)
    (hm1 : 1 ≤ value m e) (hn1 : 1 ≤ value n f) :
    IsNear (value m e * value n f) (unpacked (x * y)) := by
  have hproduct : value m e * value n f = value (m * n) (e + f) := by
    rw [value, value, value, zpow_add₀ two_ne_zero, Nat.cast_mul]
    ring
  have hsize : 2 ^ 52 ≤ m * n := (two_pow_le_mantissa hx hm1).trans (Nat.le_mul_of_pos_right m hn)
  have hlog : 52 ≤ (m * n).log2 := (Nat.le_log2 (Nat.mul_pos hm hn).ne').mpr hsize
  have htarget : e + f ≤ target (m * n) (e + f) := le_max_of_le_left (by omega)
  have hmul : x * y = packed (mul .binary64 (unpacked x) (unpacked y)) := rfl
  rw [hmul, hx, hy, hproduct]
  exact isNear_roundWithAccuracy (Nat.mul_pos hm hn) htarget
    (hproduct ▸ one_le_mul_of_one_le_of_one_le hm1 hn1)

/-- The product of two doubles that are close to numbers reaches the end of the doubles, or it is
    near the product of the numbers. -/
theorem mul_cases {a b : ℚ} (hx : unpacked x = .finite .positive m e hm)
    (hy : unpacked y = .finite .positive n f hn)
    (ha : IsClose a m e) (hb : IsClose b n f) (ha1 : 1 ≤ a) (hb1 : 1 ≤ b) :
    ((∃ s, unpacked (x * y) = .infinity s) ∧ 2 ^ 1024 ≤ (1 + unitRoundoff) ^ 3 * (a * b)) ∨
      ∃ q p hq, unpacked (x * y) = .finite .positive q p hq ∧
        (1 - unitRoundoff) ^ 3 * (a * b) ≤ value q p ∧ value q p < 2 ^ 1024 := by
  have hroundoff : 0 ≤ 1 + unitRoundoff := by norm_num [unitRoundoff]
  have hrest : 0 ≤ 1 - unitRoundoff := by norm_num [unitRoundoff]
  have hm1 : 1 ≤ value m e := ha.powers 0 (by rwa [zpow_zero])
  have hn1 : 1 ≤ value n f := hb.powers 0 (by rwa [zpow_zero])
  have hproduct := isNear_mul hx hy hm1 hn1
  obtain ⟨hlow, hhigh⟩ := ha.bounds
  obtain ⟨hlow', hhigh'⟩ := hb.bounds
  -- Both factors are rounded already, so the product is the third rounding.
  cases hparts : unpacked (x * y) with
  | notANumber | zero => rw [hparts] at hproduct; exact hproduct.elim
  | infinity s =>
    rw [hparts] at hproduct
    refine Or.inl ⟨⟨s, rfl⟩, ?_⟩
    calc (2 : ℚ) ^ 1024 ≤ (1 + unitRoundoff) * (value m e * value n f) := hproduct.2
      _ ≤ (1 + unitRoundoff) * ((1 + unitRoundoff) * a * ((1 + unitRoundoff) * b)) :=
        mul_le_mul_of_nonneg_left (mul_le_mul hhigh hhigh' (zero_le_one.trans hn1)
          (mul_nonneg hroundoff (zero_le_one.trans ha1))) hroundoff
      _ = (1 + unitRoundoff) ^ 3 * (a * b) := by ring
  | finite s q p hq =>
    rw [hparts] at hproduct
    obtain ⟨rfl, hnext⟩ := hproduct
    refine Or.inr ⟨q, p, hq, rfl, ?_, hnext.finite⟩
    calc (1 - unitRoundoff) ^ 3 * (a * b)
        = (1 - unitRoundoff) * ((1 - unitRoundoff) * a * ((1 - unitRoundoff) * b)) := by ring
      _ ≤ (1 - unitRoundoff) * (value m e * value n f) :=
        mul_le_mul_of_nonneg_left (mul_le_mul hlow hlow' (mul_nonneg hrest (zero_le_one.trans hb1))
          (zero_le_one.trans hm1)) hrest
      _ ≤ value q p := hnext.bounds.1

end

/-! ## Whole numbers and powers of ten -/

/-- A number or a power of ten that is not in the table of powers is rounded once. -/
theorem isNear_ofScientific_of_large {n k : Nat} (hn : 0 < n) (hk : k ≤ 2048)
    (h : ¬ (n < 2 ^ 53 ∧ k ≤ 22)) :
    IsNear (n * 10 ^ k) (unpacked (Float.ofScientific n false k)) := by
  have hpos : 0 < n * 10 ^ k := Nat.mul_pos hn (Nat.pow_pos (by norm_num))
  have hmantissa : n * 2 ^ 53 * 10 ^ k = n * 10 ^ k * 2 ^ 53 := Nat.mul_right_comm n _ _
  have hvalue : value (n * 2 ^ 53 * 10 ^ k) (0 - (53 : Nat)) = n * 10 ^ k := by
    rw [hmantissa, value_mul_two_pow, sub_add_cancel, value_natCast]
    push_cast
    rfl
  rw [ofScientific_of_large hn hk h, ← hvalue]
  apply isNear_roundWithAccuracy (by positivity)
  · rw [hmantissa, target_mul_two_pow hpos]
    exact le_max_of_le_left (by omega)
  · rw [hvalue]
    exact_mod_cast hpos

theorem isNear_ofNat {n : Nat} (h : 2 ^ 53 ≤ n) : IsNear n (unpacked (.ofNat n)) := by
  have hnear :=
    isNear_ofScientific_of_large (k := 0) (show 0 < n by omega) (Nat.zero_le _) (by omega)
  rwa [pow_zero, mul_one] at hnear

/-- A small power of ten stands in the table, where its mantissa holds the power of five. -/
theorem unpacked_powerOfTen_of_le {k : Nat} (hk : k ≤ 22) :
    unpacked (Float.ofScientific 1 false k) =
    .finite .positive (5 ^ k * 2 ^ (52 - (5 ^ k).log2)) (k + (5 ^ k).log2 - 52)
      (by positivity) := by
  interval_cases k <;> rfl

theorem isNear_powerOfTen {k : Nat} (hk : k ≤ 2048) :
    IsNear (10 ^ k) (unpacked (Float.ofScientific 1 false k)) := by
  by_cases hsmall : k ≤ 22
  · have hlog : (5 ^ k).log2 < 52 := (Nat.log2_lt (by positivity)).mpr
      ((Nat.pow_le_pow_right (by norm_num) hsmall).trans_lt (by norm_num))
    have hexponent : (k + (5 ^ k).log2 - 52 + (52 - (5 ^ k).log2 : Nat) : Int) = k := by omega
    rw [unpacked_powerOfTen_of_le hsmall]
    refine ⟨rfl, isClose_of_value_eq (by positivity) ?_ ?_⟩
    · calc (10 : ℚ) ^ k ≤ 10 ^ 22 := pow_le_pow_right₀ (by norm_num) hsmall
        _ < 2 ^ 74 := by norm_num
        _ ≤ 2 ^ 1024 := pow_le_pow_right₀ one_le_two (by norm_num)
    · rw [value_mul_two_pow, hexponent, value, zpow_natCast, Nat.cast_pow, ← mul_pow]
      norm_num
  · have hnear := isNear_ofScientific_of_large one_pos hk (by omega)
    rwa [Nat.cast_one, one_mul] at hnear

/-! ## Zero -/

theorem Dyadic.isWhole_zero (negative : Bool) (e : Int) :
    (⟨negative, 0, e⟩ : Dyadic).isWhole = true := by
  simp [Dyadic.isWhole]

theorem Dyadic.wholePart_zero (negative : Bool) (e : Int) :
    (⟨negative, 0, e⟩ : Dyadic).wholePart = 0 := by
  simp [Dyadic.wholePart]

/-! ## Beyond the integers of 64 bits -/

section

variable {x : Float} {s : Sign} {m : Nat} {e : Int} {hm : 0 < m}

/-- A double beyond 64 bits has no digits behind the point. -/
theorem exponent_nonneg_of_le (hx : unpacked x = .finite s m e hm) (h : 2 ^ 63 ≤ value m e) :
    0 ≤ e := by
  have hstored := isStored_unpacked x
  rw [hx] at hstored
  have hlarge : (2 : ℚ) ^ (63 : Int) ≤ 2 ^ (e + (53 : Nat)) :=
    ((zpow_natCast (2 : ℚ) 63).trans_le h).trans
      (value_two_pow 53 e ▸ value_le_iff.mpr hstored.1.size.le)
  have hexponent := (zpow_le_zpow_iff_right₀ (one_lt_two (α := ℚ))).mp hlarge
  omega

theorem isWhole_of_le (hx : unpacked x = .finite s m e hm) (h : 2 ^ 63 ≤ value m e) :
    isWhole x = true := by
  have he := exponent_nonneg_of_le hx h
  rw [isWhole, read_eq_ofUnpacked, hx]
  simp [Reading.ofUnpacked, Dyadic.isWhole, he]

/-- A double beyond 64 bits is cut to the last integer on its side. -/
theorem truncate_of_le (hx : unpacked x = .finite s m e hm) (h : 2 ^ 63 ≤ value m e) :
    truncate x = if s == .negative then minInt64 else maxInt64 := by
  have he := exponent_nonneg_of_le hx h
  have hsize : 2 ^ 63 ≤ m * 2 ^ e.toNat := by
    have hvalue : value m e = (m * 2 ^ e.toNat : Nat) := by
      rw [← value_natCast, value_mul_two_pow]
      congr 1
      omega
    rw [hvalue] at h
    exact_mod_cast h
  have hwhole : Dyadic.wholePart ⟨s == .negative, m, e⟩ =
      if s == .negative then -Int.ofNat (m * 2 ^ e.toNat) else Int.ofNat (m * 2 ^ e.toNat) := by
    rw [Dyadic.wholePart, if_pos he]
    rfl
  rw [truncate, read_eq_ofUnpacked, hx, Reading.ofUnpacked]
  simp only [hwhole, Int.ofNat_eq_natCast]
  generalize m * 2 ^ e.toNat = size at *
  rw [clampInt64, minInt64, maxInt64]
  split <;> omega

end

end CardCensus.Number
