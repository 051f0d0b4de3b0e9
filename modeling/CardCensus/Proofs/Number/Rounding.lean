import CardCensus.Proofs.Number.Parts

/-!
# Rounding stays below powers of two

A mantissa is rounded by shifting it to the exponent that its size asks for. Of what is shifted out
two bits are kept, by which the nearest mantissa is found. A power of two is a double, so what does
not exceed it is not rounded beyond it, nor is what exceeds it by less than half the distance to the
next double. A sum is so rounded back to the bound of its first summand when the second one is
small.

Results:
* `twice_shifted_le`: what the kept bits say of what has been shifted out.
* `exists_roundWithAccuracy`: what a mantissa is rounded to.
* `rounded_le`: what exceeds a power of two by little is not rounded beyond it.
-/

namespace CardCensus.Number

open Float.Model (UnpackedFloat Format totalExponent)
open Float.Model.UnpackedFloat

/-! ## Shifting -/

/-- A mantissa shifted to the right, with the two bits that are kept of what is shifted out. -/
def shifted (m k : Nat) : ExtendedMantissa :=
  ExtendedMantissa.ofMantissaAndAccuracy m .exact >>> k

theorem shifted_succ (m k : Nat) : shifted m (k + 1) = (shifted m k).shiftRightOne := rfl

theorem mantissa_shifted (m k : Nat) : (shifted m k).mantissa = m / 2 ^ k := by
  induction k with
  | zero => exact (Nat.div_one m).symm
  | succ k ih =>
    rw [shifted_succ, Nat.pow_succ, ← Nat.div_div_eq_div_mul, ← ih]
    rfl

/-- The bit that is kept first is the next one of the mantissa, so that the two together are no more
    than the mantissa was. -/
theorem twice_shifted_le (m k : Nat) :
    (2 * (shifted m k).mantissa + (shifted m k).roundBit.toNat) * 2 ^ k ≤ 2 * m := by
  induction k with
  | zero => exact (Nat.mul_one (2 * m)).le
  | succ k ih =>
    have hsplit : 2 * (shifted m (k + 1)).mantissa + (shifted m (k + 1)).roundBit.toNat =
        (shifted m k).mantissa := by
      rw [shifted_succ, ExtendedMantissa.shiftRightOne]
      rcases Nat.mod_two_eq_zero_or_one (shifted m k).mantissa with h | h <;> simp [h] <;> omega
    rw [hsplit, Nat.pow_succ, ← Nat.mul_assoc, Nat.mul_right_comm, Nat.mul_comm _ 2]
    exact (Nat.mul_le_mul_right _ (Nat.le_add_right _ _)).trans ih

theorem roundedMantissa_bounds (em : ExtendedMantissa) :
    em.mantissa ≤ em.roundedMantissa ∧ em.roundedMantissa ≤ em.mantissa + em.roundBit.toNat := by
  obtain ⟨m, _ | _, _ | _⟩ := em <;>
    simp [ExtendedMantissa.roundedMantissa, ExtendedMantissa.accuracy, Accuracy.roundToNearestEven]
  omega

/-- A mantissa that lies less than a half above a number is not rounded beyond the number. -/
theorem roundedMantissa_shifted_le {m k n : Nat} (h : 2 * m < (2 * n + 1) * 2 ^ k) :
    (shifted m k).roundedMantissa ≤ n := by
  have htwice := (twice_shifted_le m k).trans_lt h
  have hlt : 2 * (shifted m k).mantissa + (shifted m k).roundBit.toNat < 2 * n + 1 :=
    Nat.lt_of_mul_lt_mul_right htwice
  have hle := (roundedMantissa_bounds (shifted m k)).2
  cases hbit : (shifted m k).roundBit with
  | false =>
    rw [hbit] at hlt hle
    simp only [Bool.toNat_false] at hlt hle
    omega
  | true =>
    rw [hbit] at hlt hle
    simp only [Bool.toNat_true] at hlt hle
    omega

/-! ## The exponent of a mantissa -/

/-- The exponent that the size of a number asks for. -/
def target (m : Nat) (e : Int) : Int :=
  max (m.log2 + 1 + e - 53) (-1074)

theorem targetExponent_eq (m : Nat) (e : Int) :
    Format.binary64.targetExponent (totalExponent m e) = target m e := rfl

/-- The double of a sign, a mantissa and an exponent. -/
def ofParts (s : Sign) (m : Nat) (e : Int) : UnpackedFloat :=
  if h : m = 0 then .zero s else .finite s m e (Nat.pos_of_ne_zero h)

theorem roundWithAccuracy_eq (s : Sign) (m : Nat) (e : Int) :
    let k := (target m e - e).toNat
    let r := (shifted m k).roundedMantissa
    let k' := (target r (e + k) - (e + k)).toNat
    roundWithAccuracy .binary64 s m e .exact = ofParts s (shifted r k').mantissa (e + k + k') := rfl

/-! ## Rounding -/

/-- The size of a number. -/
def value (m : Nat) (e : Int) : ℚ :=
  m * 2 ^ e

theorem value_mul_two_pow (m k : Nat) (e : Int) : value (m * 2 ^ k) e = value m (e + k) := by
  rw [value, value, zpow_add₀ two_ne_zero, zpow_natCast, Nat.cast_mul, Nat.cast_pow, Nat.cast_ofNat]
  ring

theorem value_two_pow (k : Nat) (e : Int) : value (2 ^ k) e = 2 ^ (e + k) := by
  rw [← Nat.one_mul (2 ^ k), value_mul_two_pow, value, Nat.cast_one, one_mul]

theorem value_le_iff {m n : Nat} {e : Int} : value m e ≤ value n e ↔ m ≤ n := by
  rw [value, value, mul_le_mul_iff_of_pos_right (zpow_pos two_pos e), Nat.cast_le]

section

variable {m : Nat} {e : Int}

theorem log2_lt_of_lt {r n : Nat} (h : r < 2 ^ n) (hn : 0 < n) : r.log2 < n := by
  by_cases hr : r = 0
  · rwa [hr, Nat.log2_zero]
  · exact (Nat.log2_lt hr).mpr h

/-- What is shifted to the exponent that its size asks for has 53 bits, if that is not the least
    exponent. -/
theorem rounded_bounds (hm : 0 < m) (he : e ≤ target m e) :
    (shifted m (target m e - e).toNat).roundedMantissa ≤ 2 ^ 53 ∧
      (target m e ≠ -1074 → 2 ^ 52 ≤ (shifted m (target m e - e).toNat).roundedMantissa) := by
  have hlow := Nat.log2_self_le hm.ne'
  have hhigh : m < 2 ^ (m.log2 + 1) := Nat.lt_log2_self
  constructor
  · apply roundedMantissa_shifted_le
    have hbits : m.log2 + 1 ≤ 53 + (target m e - e).toNat := by
      unfold target at *
      omega
    have hpow := Nat.pow_le_pow_right two_pos hbits
    rw [Nat.pow_add 2 53] at hpow
    have hpos := Nat.two_pow_pos (target m e - e).toNat
    omega
  · intro hleast
    have hbits : m.log2 = 52 + (target m e - e).toNat := by
      unfold target at *
      omega
    rw [hbits, Nat.pow_add] at hlow
    have hmantissa : 2 ^ 52 ≤ (shifted m (target m e - e).toNat).mantissa := by
      rw [mantissa_shifted]
      exact (Nat.le_div_iff_mul_le (Nat.two_pow_pos _)).mpr hlow
    exact hmantissa.trans (roundedMantissa_bounds _).1

/-- What a mantissa is rounded to: the nearest mantissa at the exponent that its size asks for,
    which one more shift brings to full size if rounding made it too large. -/
theorem exists_roundWithAccuracy (s : Sign) (hm : 0 < m) (he : e ≤ target m e) :
    ∃ q p, roundWithAccuracy .binary64 s m e .exact = ofParts s q p ∧ IsRounded q p ∧
      value q p = value (shifted m (target m e - e).toNat).roundedMantissa (target m e) ∧
      (target m e ≠ -1074 → 2 ^ 52 ≤ q ∧ target m e ≤ p) := by
  obtain ⟨hlarge, hfull⟩ := rounded_bounds hm he
  have hround := roundWithAccuracy_eq s m e
  have hleast : -1074 ≤ target m e := le_max_right _ _
  have hexponent : e + (target m e - e).toNat = target m e := by omega
  simp only [hexponent, mantissa_shifted] at hround
  generalize (shifted m (target m e - e).toNat).roundedMantissa = r at *
  generalize target m e = t at *
  by_cases hcarry : r = 2 ^ 53
  · have hshift : (target r t - t).toNat = 1 := by
      have hlog : r.log2 = 53 := hcarry ▸ Nat.log2_two_pow
      unfold target
      omega
    refine ⟨2 ^ 52, t + 1, ?_,
      ⟨by norm_num, by omega, Or.inl le_rfl⟩, ?_, fun _ => ⟨le_rfl, by omega⟩⟩
    · rw [hround, hshift, hcarry]
      rfl
    · rw [hcarry, show (2 : Nat) ^ 53 = 2 ^ 52 * 2 ^ 1 from rfl, value_mul_two_pow]
      rfl
  · have hlt : r < 2 ^ 53 := lt_of_le_of_ne hlarge hcarry
    have hshift : (target r t - t).toNat = 0 := by
      have hlog := log2_lt_of_lt hlt (by norm_num)
      unfold target
      omega
    refine ⟨r, t, ?_, ⟨hlt, hleast, ?_⟩, rfl, fun hne => ⟨hfull hne, le_rfl⟩⟩
    · rw [hround, hshift, Nat.pow_zero, Nat.div_one]
      exact congrArg (ofParts s r) (Int.add_zero t)
    · by_cases hne : t = -1074
      · exact Or.inr hne
      · exact Or.inl (hfull hne)

theorem value_lt (m : Nat) (e : Int) : value m e < 2 ^ (m.log2 + 1 + e : Int) := by
  have hm : (m : ℚ) < 2 ^ (m.log2 + 1) := by exact_mod_cast Nat.lt_log2_self
  rw [value, zpow_add₀ two_ne_zero]
  exact mul_lt_mul_of_pos_right (by exact_mod_cast hm) (zpow_pos two_pos e)

theorem le_value (hm : 0 < m) (e : Int) : 2 ^ (m.log2 + e : Int) ≤ value m e := by
  have hlog : (2 : ℚ) ^ m.log2 ≤ m := by exact_mod_cast Nat.log2_self_le hm.ne'
  rw [value, zpow_add₀ two_ne_zero, zpow_natCast]
  exact mul_le_mul_of_nonneg_right hlog (zpow_pos two_pos e).le

/-- Where a number lies that exceeds a power of two by little: it has the exponent of the power, or
    a lesser one and is less than the power. -/
theorem value_lt_of_le (hm : 0 < m) {b : Int} (hb : 0 ≤ b) (h : value m e ≤ 2 ^ b + 2 ^ (b - 54)) :
    target m e ≤ b ∧ value m e < 2 ^ b + 2 ^ (target m e - 1) := by
  by_cases hsmall : m.log2 + 1 + e ≤ b
  · have hpow : (2 : ℚ) ^ (m.log2 + 1 + e : Int) ≤ 2 ^ b := zpow_le_zpow_right₀ one_le_two hsmall
    have hpos : (0 : ℚ) < 2 ^ (target m e - 1) := zpow_pos two_pos _
    exact ⟨max_le (by omega) (by omega), by linarith [value_lt m e]⟩
  · have hexcess : (2 : ℚ) ^ (b - 54) < 2 ^ (b - 53) := zpow_lt_zpow_right₀ one_lt_two (by omega)
    have hless : (2 : ℚ) ^ (b - 53) ≤ 2 ^ b := zpow_le_zpow_right₀ one_le_two (by omega)
    have hdouble : (2 : ℚ) ^ (b + 1) = 2 ^ b + 2 ^ b := by
      rw [zpow_add_one₀ two_ne_zero]
      ring
    have hlog : (m.log2 + e : Int) < b + 1 := by
      rw [← zpow_lt_zpow_iff_right₀ (one_lt_two (α := ℚ))]
      linarith [le_value hm e]
    have htarget : target m e = b - 52 := by
      unfold target
      omega
    rw [htarget, show b - 52 - 1 = b - 53 from by omega]
    exact ⟨by omega, by linarith⟩

/-- What exceeds a power of two by less than half the distance to the next double is not rounded
    beyond it. -/
theorem rounded_le (hm : 0 < m) (he : e ≤ target m e) {b : Int} (hb : 0 ≤ b)
    (h : value m e ≤ 2 ^ b + 2 ^ (b - 54)) :
    value (shifted m (target m e - e).toNat).roundedMantissa (target m e) ≤ 2 ^ b := by
  obtain ⟨hle, hlt⟩ := value_lt_of_le hm hb h
  have hexponent : e + (target m e - e).toNat = target m e := by omega
  generalize target m e = t at *
  have hpower : value (2 ^ (b - t).toNat) t = 2 ^ b := by
    rw [value_two_pow]
    congr 1
    omega
  have hhalf : (2 : ℚ) ^ t = 2 ^ (t - 1) + 2 ^ (t - 1) := by
    rw [← mul_two, ← zpow_add_one₀ two_ne_zero, sub_add_cancel]
  rw [← hpower, value_le_iff]
  apply roundedMantissa_shifted_le
  have htwice : value (2 * m) e < value ((2 * 2 ^ (b - t).toNat + 1) * 2 ^ (t - e).toNat) e := by
    rw [value_mul_two_pow, hexponent]
    have hleft : value (2 * m) e = 2 * value m e := by
      simp only [value]
      push_cast
      ring
    have hright : value (2 * 2 ^ (b - t).toNat + 1) t = 2 * 2 ^ b + 2 ^ t := by
      rw [← hpower]
      simp only [value]
      push_cast
      ring
    rw [hleft, hright, hhalf]
    linarith
  exact lt_of_not_ge fun hge => absurd (value_le_iff.mpr hge) (not_le.mpr htwice)

end

end CardCensus.Number
