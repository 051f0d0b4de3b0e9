import CardCensus.Proofs.Number.Rounding

/-!
# Doubles of limited size

A double within a power of two is no infinity and stands for a number. A sum stays within the bound
of its first summand when the second one is small enough, so an accumulator that only small summands
are added to never leaves its bound, however many there are.

Results:
* `isWithin_add` and `isWithin_sub`: what a sum and a difference stay within.
* `isWithin_ofInt`: a whole number within a power of two becomes a double within it.
* `isNotANumber_div_ofInt`: a number divided by a positive count is a number.
-/

namespace CardCensus.Number

open Float.Model (UnpackedFloat Format totalExponent)
open Float.Model.UnpackedFloat

/-- The double stands for a number that is no larger than a power of two. -/
def IsWithin (b : Int) (x : Float) : Prop :=
  ∃ d, read x = .finite d ∧ |d.toRat| ≤ 2 ^ b

/-- The parts stand for a number that is no larger than a power of two. -/
def IsAtMost (b : Int) : UnpackedFloat → Prop
  | .zero _ => True
  | .finite _ m e _ => value m e ≤ 2 ^ b
  | .notANumber | .infinity _ => False

/-- The parts stand for a number whose size is not less than one, or for an infinity. -/
def IsAtLeastOne : UnpackedFloat → Prop
  | .infinity _ => True
  | .finite _ m e _ => 1 ≤ value m e
  | .notANumber | .zero _ => False

theorem abs_toRat (d : Dyadic) : |d.toRat| = value d.mantissa d.exponent := by
  have hsize : |(d.mantissa : ℚ) * 2 ^ d.exponent| = value d.mantissa d.exponent :=
    abs_of_nonneg (mul_nonneg (Nat.cast_nonneg _) (zpow_pos two_pos _).le)
  rw [Dyadic.toRat, mul_assoc, abs_mul, hsize]
  cases d.negative <;> simp

theorem isWithin_iff {b : Int} {x : Float} : IsWithin b x ↔ IsAtMost b (unpacked x) := by
  have hzero : (0 : ℚ) ≤ 2 ^ b := (zpow_pos two_pos b).le
  rw [IsWithin, read_eq_ofUnpacked]
  cases unpacked x <;> simp [Reading.ofUnpacked, IsAtMost, abs_toRat, value, hzero]

theorem IsAtMost.mono {b c : Int} {f : UnpackedFloat} (h : IsAtMost b f) (hbc : b ≤ c) :
    IsAtMost c f := by
  cases f with
  | zero => exact True.intro
  | finite s m e hm => exact le_trans h (zpow_le_zpow_right₀ one_le_two hbc)
  | notANumber | infinity => exact h

theorem IsWithin.mono {b c : Int} {x : Float} (h : IsWithin b x) (hbc : b ≤ c) : IsWithin c x :=
  isWithin_iff.mpr ((isWithin_iff.mp h).mono hbc)

theorem IsWithin.isNotANumber {b : Int} {x : Float} (h : IsWithin b x) :
    isNotANumber x = false := by
  obtain ⟨d, hread, -⟩ := h
  rw [Number.isNotANumber, hread]
  rfl

/-! ## What rounding leaves -/

section

variable {s : Sign} {m q : Nat} {e p b : Int}

theorem isAtMost_packed_ofParts (h : IsRounded q p) (hb : b ≤ 1023) (hv : value q p ≤ 2 ^ b) :
    IsAtMost b (unpacked (packed (ofParts s q p))) := by
  have hp : p ≤ 971 := by
    rcases h.full with hfull | rfl
    · have hpow : (2 : ℚ) ^ (p + (52 : Nat)) ≤ 2 ^ b :=
        (value_two_pow 52 p ▸ value_le_iff.mpr hfull).trans hv
      have hexponent := (zpow_le_zpow_iff_right₀ (one_lt_two (α := ℚ))).mp hpow
      push_cast at hexponent
      omega
    · omega
  rw [ofParts]
  split
  · rw [unpacked_packed_zero]
    exact True.intro
  · rw [unpacked_packed_finite h hp]
    exact hv

theorem isAtLeastOne_packed_ofParts (h : IsRounded q p) (hv : 1 ≤ value q p) :
    IsAtLeastOne (unpacked (packed (ofParts s q p))) := by
  have hq : q ≠ 0 := by
    rintro rfl
    exact absurd hv (by norm_num [value])
  rw [ofParts, dif_neg hq]
  by_cases hp : 971 < p
  · rw [unpacked_packed_of_lt hp]
    exact True.intro
  · rw [unpacked_packed_finite h (not_lt.mp hp)]
    exact hv

theorem isAtMost_roundWithAccuracy (hm : 0 < m) (he : e ≤ target m e) (hb : 0 ≤ b) (hb' : b ≤ 1023)
    (h : value m e ≤ 2 ^ b + 2 ^ (b - 54)) :
    IsAtMost b (unpacked (packed (roundWithAccuracy .binary64 s m e .exact))) := by
  obtain ⟨q, p, hround, hrounded, hvalue, -⟩ := exists_roundWithAccuracy s hm he
  rw [hround]
  exact isAtMost_packed_ofParts hrounded hb' (hvalue ▸ rounded_le hm he hb h)

theorem isAtLeastOne_roundWithAccuracy (hm : 0 < m) (he : e ≤ target m e) (h : 1 ≤ value m e) :
    IsAtLeastOne (unpacked (packed (roundWithAccuracy .binary64 s m e .exact))) := by
  obtain ⟨q, p, hround, hrounded, -, hfull⟩ := exists_roundWithAccuracy s hm he
  have hexponent : (0 : Int) < m.log2 + 1 + e := by
    rw [← zpow_lt_zpow_iff_right₀ (one_lt_two (α := ℚ)), zpow_zero]
    exact h.trans_lt (value_lt m e)
  have htarget : target m e = m.log2 + 1 + e - 53 := max_eq_left (by omega)
  obtain ⟨hq, hp⟩ := hfull (by omega)
  have hpow : (1 : ℚ) ≤ 2 ^ (p + (52 : Nat)) := one_le_zpow₀ one_le_two (by push_cast; omega)
  rw [hround]
  exact isAtLeastOne_packed_ofParts hrounded (hpow.trans (value_two_pow 52 p ▸ value_le_iff.mpr hq))

theorem target_mul_two_pow (hm : 0 < m) (k : Nat) : target (m * 2 ^ k) (e - k) = target m e := by
  have hlog : (m * 2 ^ k).log2 = m.log2 + k := by
    induction k with
    | zero => rw [Nat.pow_zero, Nat.mul_one, Nat.add_zero]
    | succ k ih =>
      have hne : m * 2 ^ k ≠ 0 := (Nat.mul_pos hm (Nat.two_pow_pos k)).ne'
      rw [Nat.pow_succ, ← Nat.mul_assoc, Nat.mul_comm _ 2, Nat.log2_two_mul hne, ih, Nat.add_assoc]
  rw [target, target, hlog]
  push_cast
  congr 2
  omega

/-- Rounding starts by shifting to the left where the size asks for a lesser exponent, which leaves
    the number as it is. -/
theorem exists_round (s : Sign) (hm : 0 < m) (e : Int) :
    ∃ n t, 0 < n ∧ t ≤ target n t ∧ value n t = value m e ∧
    UnpackedFloat.round .binary64 s m e = roundWithAccuracy .binary64 s n t .exact := by
  have htarget := target_mul_two_pow (e := e) hm (e - target m e).toNat
  refine ⟨m * 2 ^ (e - target m e).toNat, e - (e - target m e).toNat,
    Nat.mul_pos hm (Nat.two_pow_pos _), ?_, ?_, ?_⟩
  · rw [htarget]
    omega
  · rw [value_mul_two_pow, sub_add_cancel]
  · rw [UnpackedFloat.round, targetExponent_eq, decreaseExponent]
    simp only [Nat.shiftLeft_eq]

end

/-! ## Sums -/

section

variable {a b c : Int}

/-- A signed mantissa is rounded by its size. -/
theorem exists_normalize {n : Int} (hn : n ≠ 0) (e : Int) (zero : Sign) :
    ∃ s m t, 0 < m ∧ t ≤ target m t ∧
    value m t = value n.natAbs e ∧
      UnpackedFloat.normalize .binary64 n e zero = roundWithAccuracy .binary64 s m t .exact := by
  obtain ⟨s, hround⟩ : ∃ s,
      UnpackedFloat.normalize .binary64 n e zero = UnpackedFloat.round .binary64 s n.natAbs e := by
    rw [UnpackedFloat.normalize]
    cases hsign : compare n 0 with
    | lt =>
      have hneg : n < 0 := compare_lt_iff_lt.mp hsign
      exact ⟨.negative, by rw [show (-n).toNat = n.natAbs by omega]⟩
    | eq => exact absurd (compare_eq_iff_eq.mp hsign) hn
    | gt =>
      have hpos : 0 < n := compare_gt_iff_gt.mp hsign
      exact ⟨.positive, by rw [show n.toNat = n.natAbs by omega]⟩
  obtain ⟨m, t, hm, ht, hvalue, heq⟩ := exists_round s (Int.natAbs_pos.mpr hn) e
  exact ⟨s, m, t, hm, ht, hvalue, hround.trans heq⟩

theorem isAtMost_normalize {n e : Int} {zero : Sign} (hb : 0 ≤ b) (hb' : b ≤ 1023)
    (h : value n.natAbs e ≤ 2 ^ b + 2 ^ (b - 54)) :
    IsAtMost b (unpacked (packed (UnpackedFloat.normalize .binary64 n e zero))) := by
  by_cases hn : n = 0
  · subst hn
    exact (unpacked_packed_zero zero).symm ▸ True.intro
  · obtain ⟨s, m, t, hm, ht, hvalue, hround⟩ := exists_normalize hn e zero
    rw [hround]
    exact isAtMost_roundWithAccuracy hm ht hb hb' (hvalue ▸ h)

theorem isAtLeastOne_normalize {n e : Int} {zero : Sign} (hn : n ≠ 0) (h : 1 ≤ value n.natAbs e) :
    IsAtLeastOne (unpacked (packed (UnpackedFloat.normalize .binary64 n e zero))) := by
  obtain ⟨s, m, t, hm, ht, hvalue, hround⟩ := exists_normalize hn e zero
  rw [hround]
  exact isAtLeastOne_roundWithAccuracy hm ht (hvalue ▸ h)

theorem natAbs_apply (s : Sign) (n : Int) : (s.apply n).natAbs = n.natAbs := by
  cases s with
  | negative => exact Int.natAbs_neg n
  | positive => rfl

/-- The sum of two mantissas at the lesser of their exponents. -/
theorem value_aligned_le (s₁ s₂ : Sign) (m₁ m₂ : Nat) (e₁ e₂ : Int) :
    value
      (s₁.apply (m₁ <<< (e₁ - min e₁ e₂).toNat : Nat) +
        s₂.apply (m₂ <<< (e₂ - min e₁ e₂).toNat : Nat)).natAbs
      (min e₁ e₂) ≤ value m₁ e₁ + value m₂ e₂ := by
  rw [Nat.shiftLeft_eq, Nat.shiftLeft_eq]
  have hsum := Int.natAbs_add_le (s₁.apply (m₁ * 2 ^ (e₁ - min e₁ e₂).toNat : Nat))
    (s₂.apply (m₂ * 2 ^ (e₂ - min e₁ e₂).toNat : Nat))
  rw [natAbs_apply, natAbs_apply, Int.natAbs_natCast, Int.natAbs_natCast] at hsum
  have hfirst : value (m₁ * 2 ^ (e₁ - min e₁ e₂).toNat) (min e₁ e₂) = value m₁ e₁ := by
    rw [value_mul_two_pow]
    congr 1
    omega
  have hsecond : value (m₂ * 2 ^ (e₂ - min e₁ e₂).toNat) (min e₁ e₂) = value m₂ e₂ := by
    rw [value_mul_two_pow]
    congr 1
    omega
  refine (value_le_iff.mpr hsum).trans_eq ?_
  rw [← hfirst, ← hsecond]
  simp only [value]
  push_cast
  ring

/-- **Step.** A sum stays within a power of two that its summands together exceed by little. -/
theorem isAtMost_add {f g : UnpackedFloat} (hf : IsAtMost a f) (hg : IsAtMost c g)
    (hf' : IsStored f)
    (hg' : IsStored g) (ha : a ≤ b) (hc : c ≤ b) (hb : 0 ≤ b) (hb' : b ≤ 1023)
    (h : (2 : ℚ) ^ a + 2 ^ c ≤ 2 ^ b + 2 ^ (b - 54)) :
    IsAtMost b (unpacked (packed (add .binary64 f g))) := by
  match f, g, hf, hg with
  | .zero s₁, .zero s₂, _, _ =>
    rw [add]
    split <;> (rw [unpacked_packed_zero]; exact True.intro)
  | .zero _, .finite .., _, hg => exact (unpacked_packed hg').symm ▸ hg.mono hc
  | .finite .., .zero _, hf, _ => exact (unpacked_packed hf').symm ▸ hf.mono ha
  | .finite s₁ m₁ e₁ h₁, .finite s₂ m₂ e₂ h₂, hf, hg =>
    exact isAtMost_normalize hb hb'
      ((value_aligned_le s₁ s₂ m₁ m₂ e₁ e₂).trans ((add_le_add hf hg).trans h))

theorem sub_eq_add_neg (f g : UnpackedFloat) : sub .binary64 f g = add .binary64 f g.neg := by
  cases f <;> cases g <;> try rfl
  rename_i s₁ m₁ e₁ _ s₂ m₂ e₂ _
  cases s₂ <;> simp [sub, add, neg, Sign.apply, Int.sub_eq_add_neg]

theorem isAtMost_neg {f : UnpackedFloat} (h : IsAtMost b f) : IsAtMost b f.neg := by
  cases f <;> exact h

theorem isStored_neg {f : UnpackedFloat} (h : IsStored f) : IsStored f.neg := by
  cases f <;> exact h

variable {x y : Float}

/-- What a sum stays within. -/
theorem isWithin_add (hx : IsWithin a x) (hy : IsWithin c y) (ha : a ≤ b) (hc : c ≤ b) (hb : 0 ≤ b)
    (hb' : b ≤ 1023)
    (h : (2 : ℚ) ^ a + 2 ^ c ≤ 2 ^ b + 2 ^ (b - 54)) : IsWithin b (x + y) := by
  rw [isWithin_iff] at hx hy ⊢
  exact isAtMost_add hx hy (isStored_unpacked x) (isStored_unpacked y) ha hc hb hb' h

/-- What a difference stays within. -/
theorem isWithin_sub (hx : IsWithin a x) (hy : IsWithin c y) (ha : a ≤ b) (hc : c ≤ b) (hb : 0 ≤ b)
    (hb' : b ≤ 1023)
    (h : (2 : ℚ) ^ a + 2 ^ c ≤ 2 ^ b + 2 ^ (b - 54)) : IsWithin b (x - y) := by
  rw [isWithin_iff] at hx hy ⊢
  change IsAtMost b (unpacked (packed (sub .binary64 (unpacked x) (unpacked y))))
  rw [sub_eq_add_neg]
  exact isAtMost_add hx (isAtMost_neg hy) (isStored_unpacked x) (isStored_neg (isStored_unpacked y))
    ha hc hb hb' h

theorem unpacked_neg (x : Float) : unpacked (-x) = (unpacked x).neg :=
  unpacked_packed (isStored_neg (isStored_unpacked x))

theorem isWithin_neg (hx : IsWithin b x) : IsWithin b (-x) := by
  rw [isWithin_iff] at hx ⊢
  rw [unpacked_neg]
  exact isAtMost_neg hx

/-- A sum of two summands within a bound lies within twice the bound. -/
theorem two_pow_add_le_of_le (ha : a < b) (hc : c < b) :
    (2 : ℚ) ^ a + 2 ^ c ≤ 2 ^ b + 2 ^ (b - 54) := by
  have hfirst : (2 : ℚ) ^ a ≤ 2 ^ (b - 1) := zpow_le_zpow_right₀ one_le_two (by omega)
  have hsecond : (2 : ℚ) ^ c ≤ 2 ^ (b - 1) := zpow_le_zpow_right₀ one_le_two (by omega)
  have hdouble : (2 : ℚ) ^ b = 2 ^ (b - 1) + 2 ^ (b - 1) := by
    rw [← mul_two, ← zpow_add_one₀ two_ne_zero, sub_add_cancel]
  have hrest : (0 : ℚ) < 2 ^ (b - 54) := zpow_pos two_pos _
  linarith

/-- A small summand leaves a sum within its bound. -/
theorem two_pow_add_le_of_small (hc : c + 54 ≤ b) : (2 : ℚ) ^ b + 2 ^ c ≤ 2 ^ b + 2 ^ (b - 54) :=
  add_le_add_right (zpow_le_zpow_right₀ one_le_two (by omega)) _

end

/-! ## Whole numbers -/

section

variable {n : Nat} {b : Int}

/-- A whole number that a mantissa can hold is rounded and multiplied by one. -/
theorem ofNat_of_lt (h : n < 2 ^ 53) : Float.ofNat n =
    packed (mul .binary64 (unpacked (packed (UnpackedFloat.normalize .binary64 n 0 .positive)))
      (.finite .positive (2 ^ 52) (-52) (Nat.two_pow_pos 52))) := by
  have hword : n.toUInt64.toNat = n := UInt64.toNat_ofNat_of_lt' (h.trans (by norm_num))
  have hone : unpacked (Float.exactlyRepresentablePowersOfTen[0]) =
      .finite .positive (2 ^ 52) (-52) (Nat.two_pow_pos 52) := by
    rfl
  have hfast : Float.ofNat n = n.toUInt64.toFloat * Float.exactlyRepresentablePowersOfTen[0] :=
    dif_pos ⟨h, by norm_num⟩
  have hfloat :
      n.toUInt64.toFloat =
        packed (UnpackedFloat.normalize .binary64 n.toUInt64.toNat 0 .positive) := rfl
  rw [hfast, hfloat, hword, ← hone]
  rfl

/-- A number or a power of ten that is greater is multiplied with all its bits. -/
theorem ofScientific_of_large {k : Nat} (hn : 0 < n) (hk : k ≤ 2048) (h : ¬ (n < 2 ^ 53 ∧ k ≤ 22)) :
    Float.ofScientific n false k =
      packed
        (roundWithAccuracy .binary64 .positive (n * 2 ^ 53 * 10 ^ k) (0 - (53 : Nat)) .exact) := by
  have hrange : (2 : Int) ^ Format.binary64.exponentBits = 2048 := rfl
  have hbits : Format.binary64.mantissaBits = 53 := rfl
  have hslow : Float.ofScientific n false k = packed (ofScientific .binary64 n k) := dif_neg h
  rw [hslow, ofScientific, dif_neg hn.ne', if_neg (by omega), if_neg (by omega),
    if_pos (Int.natCast_nonneg k), mul,
    hbits, Nat.shiftLeft_eq, Int.toNat_natCast, Int.add_zero, Int.zero_sub]
  rfl

theorem ofNat_of_le (h : 2 ^ 53 ≤ n) : Float.ofNat n =
    packed (roundWithAccuracy .binary64 .positive (n * 2 ^ 53) (0 - (53 : Nat)) .exact) := by
  have hlarge := ofScientific_of_large (k := 0) (show 0 < n by omega) (Nat.zero_le _) (by omega)
  rwa [Nat.pow_zero, Nat.mul_one] at hlarge

theorem le_target (m : Nat) (e : Int) : e - 52 ≤ target m e :=
  le_max_of_le_left (by omega)

theorem value_natCast (n : Nat) : value n 0 = n := by
  rw [value, zpow_zero, mul_one]

/-- The double is rounded from a number that is at least one, and within every power of two that `n`
    is within. -/
def IsRoundedFrom (n : Nat) (x : Float) : Prop :=
  ∃ s m e, 0 < m ∧ e ≤ target m e ∧ x = packed (roundWithAccuracy .binary64 s m e .exact) ∧
    1 ≤ value m e ∧
    ∀ b : Int, 0 ≤ b → b ≤ 1023 → (n : ℚ) ≤ 2 ^ b → value m e ≤ 2 ^ b

/-- What is rounded a second time has the bounds of the number from the first time on. -/
theorem isRoundedFrom_of_lt (hn : 0 < n) (h : n < 2 ^ 53) : IsRoundedFrom n (.ofNat n) := by
  have hbounds : ∀ b : Int, 0 ≤ b → b ≤ 1023 → (n : ℚ) ≤ 2 ^ b →
      IsAtMost b (unpacked (packed (UnpackedFloat.normalize .binary64 n 0 .positive))) := by
    intro b hb hb' hle
    apply isAtMost_normalize hb hb'
    rw [Int.natAbs_natCast, value_natCast]
    exact hle.trans (le_add_of_nonneg_right (zpow_pos two_pos _).le)
  have hleast :
      IsAtLeastOne (unpacked (packed (UnpackedFloat.normalize .binary64 n 0 .positive))) := by
    apply isAtLeastOne_normalize (by omega)
    rw [Int.natAbs_natCast, value_natCast]
    exact Nat.one_le_cast.mpr hn
  have hmost := hbounds 53 (by norm_num) (by norm_num) (by exact_mod_cast h.le)
  rw [ofNat_of_lt h]
  generalize unpacked (packed (UnpackedFloat.normalize .binary64 n 0 .positive)) = f at *
  cases f with
  | notANumber | infinity => exact hmost.elim
  | zero => exact hleast.elim
  | finite s m e hm =>
    have hvalue : value (m * 2 ^ 52) (e - (52 : Nat)) = value m e := by
      rw [value_mul_two_pow, sub_add_cancel]
    refine ⟨_, m * 2 ^ 52, e - (52 : Nat), Nat.mul_pos hm (Nat.two_pow_pos 52), ?_, rfl, ?_, ?_⟩
    · rw [target_mul_two_pow hm]
      exact le_target m e
    · exact hvalue ▸ hleast
    · exact fun b hb hb' hle => hvalue ▸ hbounds b hb hb' hle

theorem isRoundedFrom_of_le (hn : 0 < n) (h : 2 ^ 53 ≤ n) : IsRoundedFrom n (.ofNat n) := by
  have hvalue : value (n * 2 ^ 53) (0 - (53 : Nat)) = n := by
    rw [value_mul_two_pow, sub_add_cancel, value_natCast]
  refine ⟨_, n * 2 ^ 53, _, Nat.mul_pos hn (Nat.two_pow_pos 53), ?_, ofNat_of_le h, ?_, ?_⟩
  · rw [target_mul_two_pow hn]
    exact le_max_of_le_left (by omega)
  · exact hvalue ▸ Nat.one_le_cast.mpr hn
  · exact fun b _ _ hle => hvalue ▸ hle

theorem isRoundedFrom_ofNat (hn : 0 < n) : IsRoundedFrom n (.ofNat n) := by
  rcases lt_or_ge n (2 ^ 53) with h | h
  · exact isRoundedFrom_of_lt hn h
  · exact isRoundedFrom_of_le hn h

theorem isWithin_ofNat (hb : 0 ≤ b) (hb' : b ≤ 1023) (h : (n : ℚ) ≤ 2 ^ b) :
    IsWithin b (.ofNat n) := by
  rw [isWithin_iff]
  rcases Nat.eq_zero_or_pos n with rfl | hn
  · exact True.intro
  · obtain ⟨s, m, e, hm, he, heq, -, hbounds⟩ := isRoundedFrom_ofNat hn
    rw [heq]
    have hrest : (0 : ℚ) ≤ 2 ^ (b - 54) := (zpow_pos two_pos _).le
    exact isAtMost_roundWithAccuracy hm he hb hb'
      (le_add_of_le_of_nonneg (hbounds b hb hb' h) hrest)

theorem isAtLeastOne_ofNat (hn : 0 < n) : IsAtLeastOne (unpacked (.ofNat n)) := by
  obtain ⟨s, m, e, hm, he, heq, hleast, -⟩ := isRoundedFrom_ofNat hn
  rw [heq]
  exact isAtLeastOne_roundWithAccuracy hm he hleast

/-- A whole number within a power of two becomes a double within it. -/
theorem isWithin_ofInt {n : Int} (hb : 0 ≤ b) (hb' : b ≤ 1023) (h : (n.natAbs : ℚ) ≤ 2 ^ b) :
    IsWithin b (.ofInt n) := by
  cases n with
  | ofNat n => exact isWithin_ofNat hb hb' h
  | negSucc n => exact isWithin_neg (isWithin_ofNat hb hb' h)

theorem roundWithAccuracy_ne_notANumber (s : Sign) (m : Nat) (e : Int) (accuracy : Accuracy) :
    roundWithAccuracy .binary64 s m e accuracy ≠ .notANumber := by
  unfold roundWithAccuracy
  dsimp only
  split <;> exact UnpackedFloat.noConfusion

theorem div_ne_notANumber {f g : UnpackedFloat} (hf : IsAtMost b f) (hg : IsAtLeastOne g) :
    div .binary64 f g ≠ .notANumber := by
  match f, g, hf, hg with
  | .zero _, .infinity _, _, _ | .zero _, .finite .., _, _ | .finite .., .infinity _, _, _ =>
    exact UnpackedFloat.noConfusion
  | .finite .., .finite .., _, _ => exact roundWithAccuracy_ne_notANumber _ _ _ _

/-- A number divided by a positive count is a number. -/
theorem isNotANumber_div_ofInt {x : Float} (hx : IsWithin b x) (hn : 0 < n) :
    isNotANumber (x / .ofInt n) = false :=
  isNotANumber_packed (div_ne_notANumber (isWithin_iff.mp hx) (isAtLeastOne_ofNat hn))

end

end CardCensus.Number
