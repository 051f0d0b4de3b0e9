import CardCensus.Proofs.Number.Order
import Mathlib

/-!
# Doubles taken apart and put together

The arithmetic of doubles takes them apart into sign, mantissa and exponent, and puts the result
together again. Taking apart gives what `read` gives. A mantissa and an exponent come through both
ways if they are those of a double: the mantissa of full size, or smaller at the least exponent.

Results:
* `read_eq_ofUnpacked`: reading a double is taking it apart.
* `isStored_unpacked`: what a double is taken apart into is stored in it.
* `unpacked_packed`: what can be stored in a double comes out again.
* `unpacked_packed_of_lt`: what is too large for a double comes out as an infinity.
* `isNotANumber_packed`: what is a number stays one.
* `ofBits_toBits`: a double comes back from its bits.
-/

namespace CardCensus.Number

open Float.Model (UnpackedFloat Format)
open Float.Model.UnpackedFloat

/-- The parts of a double. -/
def unpacked (x : Float) : UnpackedFloat :=
  x.toModel.unpack

/-- The double with the given parts. -/
def packed (f : UnpackedFloat) : Float :=
  .ofModel (.pack f)

/-- What the parts of a double stand for. -/
def Reading.ofUnpacked : UnpackedFloat → Reading
  | .notANumber => .notANumber
  | .infinity s => .infinite (s == .negative)
  | .zero s => .finite ⟨s == .negative, 0, -1074⟩
  | .finite s m e _ => .finite ⟨s == .negative, m, e⟩

/-! ## Taking apart -/

theorem toNat_unpackExponent (b : BitVec Format.binary64.numBits) :
    (unpackExponent b).toNat = b.toNat / exponentWeight % 0x800 := by
  simp [unpackExponent, BitVec.extractLsb_toNat, Nat.shiftRight_eq_div_pow, exponentWeight]

theorem toNat_unpackMantissa (b : BitVec Format.binary64.numBits) :
    (unpackMantissa b).toNat = b.toNat % exponentWeight := by
  simp [unpackMantissa, BitVec.extractLsb_toNat, exponentWeight]

theorem toNat_unpackSign (b : BitVec Format.binary64.numBits) :
    (unpackSign b).toNat = b.toNat / signWeight := by
  have hb : b.toNat < 2 * signWeight := b.isLt
  have hquotient : b.toNat / signWeight < 2 := Nat.div_lt_of_lt_mul (Nat.mul_comm _ _ ▸ hb)
  simp only [unpackSign, BitVec.toNat_cast, BitVec.extractLsb_toNat, Nat.shiftRight_eq_div_pow]
  exact Nat.mod_eq_of_lt hquotient

theorem ofBitVec_eq_negative (b : BitVec Format.binary64.numBits) :
    (Sign.ofBitVec (unpackSign b) == .negative) = decide (signWeight ≤ b.toNat) := by
  have hzero : unpackSign b = 0#1 ↔ ¬ signWeight ≤ b.toNat := by
    rw [← BitVec.toNat_inj, toNat_unpackSign, not_le]
    exact Nat.div_eq_zero_iff_lt (by decide)
  rw [Sign.ofBitVec]
  by_cases h : signWeight ≤ b.toNat
  · rw [if_neg (mt hzero.mp (not_not.mpr h)), decide_eq_true h]
    rfl
  · rw [if_pos (hzero.mpr h), decide_eq_false h]
    rfl

/-- The mantissa of full size has one bit more than is stored. -/
theorem toNat_one_append (m : BitVec 52) : (1#1 ++ m).toNat = exponentWeight + m.toNat := by
  have hm : m.toNat < 2 ^ 52 := m.isLt
  rw [BitVec.toNat_append, ← Nat.shiftLeft_add_eq_or_of_lt hm]
  rfl

theorem ofUnpacked_unpack (b : BitVec Format.binary64.numBits) :
    Reading.ofUnpacked (unpack .binary64 b) =
    if b.toNat / exponentWeight % 0x800 = 0x7FF then
      if b.toNat % exponentWeight = 0 then .infinite (signWeight ≤ b.toNat) else .notANumber
    else if b.toNat / exponentWeight % 0x800 = 0
      then .finite ⟨signWeight ≤ b.toNat, b.toNat % exponentWeight, -1074⟩
    else .finite ⟨signWeight ≤ b.toNat, exponentWeight + b.toNat % exponentWeight,
      Int.ofNat (b.toNat / exponentWeight % 0x800) - 1075⟩ := by
  have hnil : (unpackMantissa b).toNat = 0 ↔ unpackMantissa b = 0#52 := BitVec.toNat_inj (y := 0#52)
  have hleast : (unpackExponent b).toNat = 0 ↔ unpackExponent b = 0#11 :=
    BitVec.toNat_inj (y := 0#11)
  have hmost : (unpackExponent b).toNat = 0x7FF ↔ unpackExponent b = -1#11 :=
    BitVec.toNat_inj (y := -1#11)
  simp only [← toNat_unpackExponent, ← toNat_unpackMantissa, ← ofBitVec_eq_negative, hmost, hleast,
    hnil]
  unfold unpack
  dsimp only
  split_ifs with _ _ hexponent hmantissa
  · rfl
  · rfl
  · rw [hmantissa]
    rfl
  · rw [hexponent]
    rfl
  · rw [Reading.ofUnpacked, toNat_one_append]
    rfl

/-- Reading a double is taking it apart. -/
theorem read_eq_ofUnpacked (x : Float) : read x = .ofUnpacked (unpacked x) :=
  (ofUnpacked_unpack x.toModel.toBits.toBitVec).symm

theorem isNotANumber_eq_false_iff {x : Float} : isNotANumber x = false ↔
    unpacked x ≠ .notANumber := by
  rw [isNotANumber, read_eq_ofUnpacked, beq_eq_false_iff_ne, not_iff_not]
  cases unpacked x <;> simp [Reading.ofUnpacked]

/-! ## What is stored -/

/-- The mantissa is of full size, or smaller at the least exponent. -/
structure IsRounded (m : Nat) (e : Int) : Prop where
  size : m < 2 ^ 53
  least : -1074 ≤ e
  full : 2 ^ 52 ≤ m ∨ e = -1074

/-- The parts can be stored in a double. -/
def IsStored : UnpackedFloat → Prop
  | .finite _ m e _ => IsRounded m e ∧ e ≤ 971
  | .notANumber | .infinity _ | .zero _ => True

/-- What a double is taken apart into is stored in it. -/
theorem isStored_unpacked (x : Float) : IsStored (unpacked x) := by
  have hread := read_eq_ofUnpacked x
  cases hparts : unpacked x with
  | notANumber | infinity | zero => exact True.intro
  | finite s m e hm =>
    rw [hparts, Reading.ofUnpacked, read] at hread
    have hfraction : x.toBits.toNat % exponentWeight < 2 ^ 52 := Nat.mod_lt _ (by decide)
    have hexponent : x.toBits.toNat / exponentWeight % 0x800 < 0x800 := Nat.mod_lt _ (by decide)
    have hweight : exponentWeight = 2 ^ 52 := rfl
    split_ifs at hread
    · obtain ⟨-, rfl, rfl⟩ := Dyadic.mk.inj (Reading.finite.inj hread)
      exact ⟨⟨by omega, by omega, Or.inr rfl⟩, by omega⟩
    · obtain ⟨-, rfl, rfl⟩ := Dyadic.mk.inj (Reading.finite.inj hread)
      rw [Int.ofNat_eq_natCast]
      exact ⟨⟨by omega, by omega, Or.inl (by omega)⟩, by omega⟩

/-! ## Putting together -/

theorem ofBitVec_packComponents (s : Sign) (e : BitVec 11) (m : BitVec 52) :
    Sign.ofBitVec (unpackSign (packComponents .binary64 s e m)) = s := by
  rw [unpackSign_packComponents, Sign.ofBitVec_toBitVec]

/-- The exponent is stored with a bias. -/
theorem toNat_biased (e : Int) :
    (e + Format.binary64.exponentBias + Format.binary64.mantissaBitsWithoutImplicit).toNat =
      (e + 1075).toNat :=
  congrArg Int.toNat (Int.add_assoc e 1023 52)

/-- The mantissa and the exponent as they are stored: at the least exponent the stored exponent is
    zero, unless the mantissa is of full size. -/
theorem pack_finite {s : Sign} {m : Nat} {e : Int} {hm : 0 < m} (h : IsRounded m e) (he : e ≤ 971) :
    pack .binary64 (.finite s m e hm) = packComponents .binary64 s
      (BitVec.ofNat 11 (if 2 ^ 52 ≤ m then (e + 1075).toNat else 0)) (BitVec.ofNat 52 m) := by
  obtain ⟨hsize, hleast, hfull⟩ := h
  have hbiased := toNat_biased e
  have hfits : ¬ 2 ^ 11 ≤ (e + 1075).toNat + 1 := by omega
  have hlog : m.log2 + 1 = Format.binary64.mantissaBits ↔ 2 ^ 52 ≤ m := by
    have hbits : Format.binary64.mantissaBits = 53 := rfl
    have hlt : m.log2 < 53 := (Nat.log2_lt hm.ne').mpr hsize
    rw [← Nat.le_log2 hm.ne', hbits]
    omega
  rw [pack]
  simp only [hbiased, hlog]
  rw [if_neg hfits]
  split <;> rfl

theorem unpacked_packed_finite {s : Sign} {m : Nat} {e : Int} {hm : 0 < m} (h : IsRounded m e)
    (he : e ≤ 971) :
    unpacked (packed (.finite s m e hm)) = .finite s m e hm := by
  obtain ⟨hsize, hleast, hfull⟩ := h
  change unpack .binary64 (pack .binary64 (.finite s m e hm)) = _
  rw [pack_finite ⟨hsize, hleast, hfull⟩ he, unpack]
  simp only [unpackMantissa_packComponents, unpackExponent_packComponents, ofBitVec_packComponents]
  have hmost : BitVec.ofNat 11 (if 2 ^ 52 ≤ m then (e + 1075).toNat else 0) ≠ -1#11 := by
    rw [ne_eq, ← BitVec.toNat_inj, BitVec.toNat_ofNat]
    change ¬ _ = 2047
    split <;> omega
  have hbias : (Format.binary64.exponentBias : Int) + (52 : Nat) = 1075 := rfl
  have hfraction : (BitVec.ofNat 52 m).toNat = m % 2 ^ 52 := BitVec.toNat_ofNat m 52
  rw [if_neg hmost]
  by_cases hnormal : 2 ^ 52 ≤ m
  · have hexponent : (BitVec.ofNat 11 (e + 1075).toNat).toNat = (e + 1075).toNat := by
      rw [BitVec.toNat_ofNat]
      omega
    have hne : BitVec.ofNat 11 (e + 1075).toNat ≠ 0#11 := by
      rw [ne_eq, ← BitVec.toNat_inj, hexponent]
      change ¬ _ = 0
      omega
    simp only [if_pos hnormal]
    rw [if_neg hne]
    congr 1
    · rw [toNat_one_append, hfraction, exponentWeight]
      omega
    · rw [hexponent, hbias]
      omega
  · obtain rfl : e = -1074 := hfull.resolve_left hnormal
    have hne : BitVec.ofNat 52 m ≠ 0#52 := by
      rw [ne_eq, ← BitVec.toNat_inj, hfraction]
      change ¬ _ = 0
      omega
    simp only [if_neg hnormal]
    rw [if_pos True.intro, dif_neg hne]
    congr 1
    rw [hfraction]
    omega

theorem unpacked_packed_zero (s : Sign) : unpacked (packed (.zero s)) = .zero s := by
  cases s <;> rfl

/-- What can be stored in a double comes out again. -/
theorem unpacked_packed {f : UnpackedFloat} (h : IsStored f) : unpacked (packed f) = f := by
  cases f with
  | notANumber => rfl
  | infinity s => cases s <;> rfl
  | zero s => exact unpacked_packed_zero s
  | finite s m e hm => exact unpacked_packed_finite h.1 h.2

/-- What is too large to be stored in a double becomes an infinity. -/
theorem unpacked_packed_of_lt {s : Sign} {m : Nat} {e : Int} {hm : 0 < m} (h : 971 < e) :
    unpacked (packed (.finite s m e hm)) = .infinity s := by
  have hbiased := toNat_biased e
  have hlarge : 2 ^ 11 ≤ (e + 1075).toNat + 1 := by omega
  change unpack .binary64 (pack .binary64 (.finite s m e hm)) = _
  rw [pack]
  simp only [hbiased]
  rw [if_pos hlarge]
  cases s <;> rfl

theorem unpack_ne_notANumber {b : BitVec Format.binary64.numBits} (h : unpackExponent b ≠ -1#11) :
    unpack .binary64 b ≠ .notANumber := by
  unfold unpack
  dsimp only
  rw [if_neg h]
  split_ifs <;> exact UnpackedFloat.noConfusion

/-- What is a number stays one when it is put together. -/
theorem isNotANumber_packed {f : UnpackedFloat} (h : f ≠ .notANumber) :
    isNotANumber (packed f) = false := by
  rw [isNotANumber_eq_false_iff]
  cases f with
  | notANumber => exact absurd rfl h
  | infinity s | zero s => cases s <;> exact UnpackedFloat.noConfusion
  | finite s m e hm =>
    by_cases hlarge : 971 < e
    · rw [unpacked_packed_of_lt hlarge]
      exact UnpackedFloat.noConfusion
    · have hbiased := toNat_biased e
      have hfits : ¬ 2 ^ 11 ≤ (e + 1075).toNat + 1 := by omega
      apply unpack_ne_notANumber
      change unpackExponent (pack .binary64 (.finite s m e hm)) ≠ -1#11
      rw [pack]
      simp only [hbiased]
      rw [if_neg hfits]
      split_ifs
      · rw [unpackExponent_packComponents, ne_eq, ← BitVec.toNat_inj, BitVec.toNat_ofNat]
        change ¬ _ = 2047
        omega
      · rw [unpackExponent_packComponents]
        decide

/-! ## The double itself -/

/-- There is only one double that is no number. -/
theorem toBits_eq_packedNaN {x : Float}
    (hexponent : x.toBits.toNat / exponentWeight % 0x800 = 0x7FF)
    (hfraction : x.toBits.toNat % exponentWeight ≠ 0) :
    x.toBits.toBitVec = packedNaN .binary64 := by
  apply x.toModel.valid.eq_packedNaN
  · rw [← BitVec.toNat_inj, toNat_unpackExponent]
    exact hexponent
  · rw [ne_eq, ← BitVec.toNat_inj, toNat_unpackMantissa]
    exact hfraction

/-- Doubles that stand for the same are the same. -/
theorem read_inj {x y : Float} (h : read x = read y) : x = y := by
  have hx : x.toBits.toNat < 2 * signWeight := x.toBits.toNat_lt
  have hy : y.toBits.toNat < 2 * signWeight := y.toBits.toNat_lt
  apply eq_of_toBits_eq
  unfold read at h
  dsimp only at h
  -- Of the sixteen cases four are left: both doubles are infinite, no number, small, or of full
  -- size.
  split_ifs at h <;>
    simp only [Reading.infinite.injEq, Reading.finite.injEq, Dyadic.mk.injEq, decide_eq_decide,
      Int.ofNat_eq_natCast] at h
  · apply UInt64.toNat_inj.mp
    unfold signWeight exponentWeight at *
    omega
  · rename_i hxexponent hxfraction hyexponent hyfraction
    exact UInt64.toBitVec_inj.mp ((toBits_eq_packedNaN hxexponent hxfraction).trans
      (toBits_eq_packedNaN hyexponent hyfraction).symm)
  all_goals
    apply UInt64.toNat_inj.mp
    unfold signWeight exponentWeight at *
    omega

/-- A double is what its parts are put together to. -/
theorem packed_unpacked (x : Float) : packed (unpacked x) = x := by
  apply read_inj
  rw [read_eq_ofUnpacked, unpacked_packed (isStored_unpacked x), ← read_eq_ofUnpacked]

/-- A double comes back from its bits. -/
theorem ofBits_toBits (x : Float) : Float.ofBits x.toBits = x :=
  packed_unpacked x

end CardCensus.Number
