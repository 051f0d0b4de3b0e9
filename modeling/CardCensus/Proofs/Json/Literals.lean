import CardCensus.Json.Structure
import CardCensus.Proofs.Number.Nearness
import CardCensus.Proofs.Text.Case

/-!
# Whole numbers in a document

A whole number is digits, with or without a minus before them. The reader keeps the digits that fit
64 bits and counts the others: they make the number the double of the digits that were kept, times a
power of ten. So a number of more than 64 bits is known only as far as doubles go, and there is an
end to them. In quotes the same characters are a string like any other.

Results:
* `absorb_digits`: which digits are kept.
* `scaleTen_cases`: digits times a power of ten.
* `readUnsigned_digits`, `finishNumber_of_ends`: what is read of a whole number.
* `readValue_literal`, `readValue_quoted`: a whole number as a value, without quotes and in quotes.
-/

namespace CardCensus.Number

/-! ## The value of a row of digits -/

variable {digits : List Char}

theorem digitValue_le {c : Char} (h : c.isDigit = true) : digitValue c ≤ 9 := by
  have hle := (Text.isDigit_iff.mp h).2
  have hzero : '0'.toNat = 48 := rfl
  rw [digitValue]
  omega

/-- Digits that come later push the number before them to the left. -/
theorem foldl_digitValue (digits : List Char) (n : Nat) :
    digits.foldl (fun n c => 10 * n + digitValue c) n = n * 10 ^ digits.length +
      decimalValue digits := by
  induction digits generalizing n with
  | nil => simp [decimalValue]
  | cons c digits ih =>
    rw [decimalValue, List.foldl_cons, List.foldl_cons, ih, ih, List.length_cons, pow_succ]
    ring

theorem decimalValue_append (front back : List Char) :
    decimalValue (front ++ back) = decimalValue front * 10 ^ back.length + decimalValue back := by
  rw [decimalValue, List.foldl_append, foldl_digitValue, ← decimalValue]

theorem decimalValue_lt (h : ∀ c ∈ digits, c.isDigit = true) :
    decimalValue digits < 10 ^ digits.length := by
  induction digits with
  | nil => exact one_pos
  | cons c digits ih =>
    rw [List.forall_mem_cons] at h
    have hdigit := Nat.mul_le_mul_right (10 ^ digits.length) (digitValue_le h.1)
    have hrest := ih h.2
    rw [decimalValue, List.foldl_cons, foldl_digitValue, Nat.mul_zero, Nat.zero_add,
      List.length_cons, pow_succ]
    omega

end CardCensus.Number

namespace CardCensus.Json

open CardCensus.Number

variable {digits rest : List Char}

/-! ## Digits that are kept -/

/-- The digits are kept as long as they fit 64 bits; when some are not kept, the others are close to
    filling the 64 bits. -/
theorem absorb_digits (kept : Nat) (h : ∀ c ∈ digits, c.isDigit = true)
    (hrest : startsWithDigit rest = false) :
    ∃ taken dropped, digits = taken ++ dropped ∧
      absorb kept (digits ++ rest) = (taken.foldl (fun n c => 10 * n + digitValue c) kept,
        dropped ++ rest) ∧
      (kept ≤ maxKept → taken.foldl (fun n c => 10 * n + digitValue c) kept ≤ maxKept) ∧
      (dropped ≠ [] → maxKept < 10 * taken.foldl (fun n c => 10 * n + digitValue c) kept + 10) := by
  induction digits generalizing kept with
  | nil =>
    refine ⟨[], [], rfl, ?_, id, fun hne => absurd rfl hne⟩
    cases rest with
    | nil => rfl
    | cons c rest =>
      have hc : c.isDigit = false := hrest
      rw [List.nil_append, absorb, hc]
      rfl
  | cons c digits ih =>
    rw [List.forall_mem_cons] at h
    rw [List.cons_append, absorb, h.1, Bool.true_and, Nat.mul_comm kept]
    by_cases hfits : 10 * kept + digitValue c ≤ maxKept
    · obtain ⟨taken, dropped, rfl, habsorb, hkept, hdropped⟩ := ih (10 * kept + digitValue c) h.2
      refine ⟨c :: taken, dropped, rfl, ?_, fun _ => hkept hfits, hdropped⟩
      rw [decide_eq_true hfits, if_pos rfl, habsorb]
      rfl
    · have hdigit := digitValue_le h.1
      refine ⟨[], c :: digits, rfl, ?_, id, fun _ => ?_⟩
      · rw [decide_eq_false hfits]
        rfl
      · rw [List.foldl_nil]
        omega

theorem dropWhile_isDigit (h : startsWithDigit rest = false) :
    rest.dropWhile Char.isDigit = rest := by
  cases rest with
  | nil => rfl
  | cons c rest => exact List.dropWhile_cons_of_neg (Bool.eq_false_iff.mp h)

/-! ## Digits times a power of ten -/

/-- The powers of ten around the end of the doubles. -/
theorem ten_pow_lt : (1 + unitRoundoff) * 10 ^ 308 < 2 ^ 1024 := by
  have hten : (10 : ℚ) ^ 308 = (10 ^ 77) ^ 4 := by rw [← pow_mul]
  have htwo : (2 : ℚ) ^ 1024 = (2 ^ 128) ^ 8 := by rw [← pow_mul]
  rw [hten, htwo]
  norm_num [unitRoundoff]

theorem le_ten_pow : (2 : ℚ) ^ 1024 ≤ 10 ^ 309 := by
  have hten : (10 : ℚ) ^ 309 = (10 ^ 103) ^ 3 := by rw [← pow_mul]
  have htwo : (2 : ℚ) ^ 1024 = (2 ^ 128) ^ 8 := by rw [← pow_mul]
  rw [hten, htwo]
  norm_num

theorem exists_unpacked_kept {kept : Nat} (hkept : 2 ^ 53 ≤ kept) (hmax : kept ≤ maxKept) :
    ∃ m e hm, unpacked (.ofNat kept) = .finite .positive m e hm ∧ IsClose kept m e := by
  apply (isNear_ofNat hkept).exists_finite
  have hsmall : (kept : ℚ) ≤ 2 ^ 64 := by exact_mod_cast hmax.trans (by decide)
  calc (1 + unitRoundoff) * kept ≤ (1 + unitRoundoff) * 2 ^ 64 :=
        mul_le_mul_of_nonneg_left hsmall (by norm_num [unitRoundoff])
    _ < 2 ^ 65 := by norm_num [unitRoundoff]
    _ ≤ 2 ^ 1024 := pow_le_pow_right₀ one_le_two (by norm_num)

theorem exists_unpacked_powerOfTen {k : Nat} (hk : k ≤ maxPower) :
    ∃ m e hm, unpacked (powerOfTen k) = .finite .positive m e hm ∧ IsClose (10 ^ k) m e := by
  apply (isNear_powerOfTen (hk.trans (by decide))).exists_finite
  have hsmall : (10 : ℚ) ^ k ≤ 10 ^ 308 := pow_le_pow_right₀ (by norm_num) hk
  exact (mul_le_mul_of_nonneg_left hsmall (by norm_num [unitRoundoff])).trans_lt ten_pow_lt

/-- Kept digits times a power of ten reach the end of the doubles, or they make a double near their
    product. -/
theorem scaleTen_cases {kept : Nat} (k : Nat) (hkept : 2 ^ 53 ≤ kept) (hmax : kept ≤ maxKept) :
    (scaleTen (.ofNat kept) k = none ∧ 2 ^ 1024 ≤ (1 + unitRoundoff) ^ 3 * (kept * 10 ^ k)) ∨
      ∃ x m e hm, scaleTen (.ofNat kept) k = some x ∧ unpacked x = .finite .positive m e hm ∧
        (1 - unitRoundoff) ^ 3 * (kept * 10 ^ k) ≤ value m e ∧ value m e < 2 ^ 1024 := by
  have hroundoff : 0 < unitRoundoff := by norm_num [unitRoundoff]
  have hleast : (1 : ℚ) ≤ kept := by exact_mod_cast (by omega : 1 ≤ kept)
  obtain ⟨m, e, hm, hfirst, hclose⟩ := exists_unpacked_kept hkept hmax
  rw [scaleTen, Int.natAbs_natCast]
  by_cases hk : k ≤ maxPower
  · obtain ⟨n, f, hn, hsecond, hclose'⟩ := exists_unpacked_powerOfTen hk
    have hinfinite : (Float.ofNat kept * powerOfTen k).isInf =
        (unpacked (.ofNat kept * powerOfTen k)).isInf := rfl
    rw [if_pos hk, if_pos (Int.natCast_nonneg k)]
    rcases mul_cases hfirst hsecond hclose hclose' hleast (one_le_pow₀ (by norm_num)) with
      ⟨⟨s, hparts⟩, hlarge⟩ | ⟨q, p, hq, hparts, hlow, hhigh⟩
    · rw [hparts] at hinfinite
      exact Or.inl ⟨if_pos hinfinite, hlarge⟩
    · rw [hparts] at hinfinite
      exact Or.inr ⟨_, q, p, hq, if_neg (Bool.eq_false_iff.mp hinfinite), hparts, hlow, hhigh⟩
  · have hbeq : (Float.ofNat kept == 0) = (unpacked (.ofNat kept)).beq (unpacked 0) := rfl
    have hzero : unpacked 0 = .zero .positive := rfl
    have hne : ¬ (Float.ofNat kept == 0) = true := by
      rw [hbeq, hfirst, hzero]
      exact Bool.false_ne_true
    refine Or.inl ⟨?_, ?_⟩
    · rw [if_neg hk, if_neg hne, if_pos (Int.natCast_nonneg k)]
    · calc (2 : ℚ) ^ 1024 ≤ 10 ^ 309 := le_ten_pow
        _ ≤ 10 ^ k := pow_le_pow_right₀ (by norm_num) (not_le.mp hk)
        _ ≤ kept * 10 ^ k := le_mul_of_one_le_left (by positivity) hleast
        _ ≤ (1 + unitRoundoff) ^ 3 * (kept * 10 ^ k) :=
          le_mul_of_one_le_left (by positivity) (one_le_pow₀ (le_add_of_nonneg_right hroundoff.le))

/-! ## Whole numbers -/

/-- The number with a sign before it. -/
def withSign (negative : Bool) (n : Nat) : Int :=
  if negative then -Int.ofNat n else Int.ofNat n

/-- A whole number as a document writes it: with or without a minus, and without a zero before its
    digits. -/
structure Literal where
  negative : Bool
  digits : List Char
  digits_ne_nil : digits ≠ []
  isDigit : ∀ c ∈ digits, c.isDigit = true
  leading : digits = ['0'] ∨ digits.head? ≠ some '0'

namespace Literal

/-- How the number is written. -/
def text (literal : Literal) : List Char :=
  signText literal.negative ++ literal.digits

/-- The number that is written. -/
def value (literal : Literal) : Int :=
  withSign literal.negative (decimalValue literal.digits)

end Literal

theorem Literal.natAbs_value (literal : Literal) :
    literal.value.natAbs = decimalValue literal.digits := by
  rw [value, withSign]
  split
  · exact Int.natAbs_neg _
  · rfl

/-- A number ends before the rest, which goes on with nothing that belongs to a number. -/
structure EndsNumber (rest : List Char) : Prop where
  digit : startsWithDigit rest = false
  exponent : startsWithExponent rest = false
  point : ∀ tail, rest ≠ '.' :: tail

/-- The digits are kept up to some place, and those behind it are counted. -/
theorem readUnsigned_digits (positive : Bool) (literal : Literal) (hrest : EndsNumber rest) :
    ∃ taken dropped, literal.digits = taken ++ dropped ∧
      readUnsigned positive (literal.digits ++ rest) =
        finishNumber positive (decimalValue taken) dropped.length rest ∧
      decimalValue taken ≤ maxKept ∧ (dropped ≠ [] → maxKept < 10 * decimalValue taken + 10) := by
  rcases literal.leading with hzero | hlead
  · refine ⟨['0'], [], hzero, ?_, by decide, fun hne => absurd rfl hne⟩
    rw [hzero, List.singleton_append, readUnsigned, hrest.digit]
    rfl
  · obtain ⟨taken, dropped, hdigits, habsorb, hkept, hdropped⟩ :=
      absorb_digits 0 literal.isDigit hrest.digit
    refine ⟨taken, dropped, hdigits, ?_, hkept (Nat.zero_le _), hdropped⟩
    have hleft : (dropped ++ rest).dropWhile Char.isDigit = rest := by
      have hdrop : ∀ c ∈ dropped, c.isDigit = true := fun c hc =>
        literal.isDigit c (hdigits ▸ List.mem_append_right taken hc)
      rw [List.dropWhile_append_of_pos hdrop]
      exact dropWhile_isDigit hrest.digit
    obtain ⟨c, tail, hcons⟩ := List.exists_cons_of_ne_nil literal.digits_ne_nil
    have hc : c.isDigit = true := literal.isDigit c (hcons ▸ List.mem_cons_self)
    have hne : c ≠ '0' := by
      rintro rfl
      rw [hcons] at hlead
      exact hlead rfl
    rw [hcons, List.cons_append] at habsorb
    rw [hcons, List.cons_append, readUnsigned.eq_3 _ _ _ hne, hc, habsorb]
    simp only [hleft, List.length_append, Nat.add_sub_cancel_right]
    rfl

/-- A number that ends behind its digits is a whole one, unless some of the digits were not kept. -/
theorem finishNumber_of_ends (positive : Bool) (kept skipped : Nat) (hrest : EndsNumber rest) :
    finishNumber positive kept skipped rest =
      if skipped ≠ 0 then numberOfParts positive kept skipped rest
      else if positive then .ok (.integer kept, rest)
      else if kept = 0 ∨ 0x8000000000000000 < kept then .ok (.real (negatedReal kept), rest)
      else .ok (.integer (-Int.ofNat kept), rest) := by
  rw [finishNumber.eq_2 _ _ _ _ hrest.point, hrest.exponent, Bool.or_false]
  simp only [decide_eq_true_eq, finishReal, hrest.exponent, Bool.false_eq_true, if_false]

theorem readNumber_literal (literal : Literal) (rest : List Char) :
    readNumber (literal.text ++ rest) = readUnsigned (!literal.negative)
      (literal.digits ++ rest) := by
  obtain ⟨c, tail, hcons⟩ := List.exists_cons_of_ne_nil literal.digits_ne_nil
  have hc : c.isDigit = true := literal.isDigit c (hcons ▸ List.mem_cons_self)
  rw [Literal.text]
  cases literal.negative with
  | true => rfl
  | false =>
    refine readNumber.eq_2 _ fun tail heq => ?_
    rw [hcons] at heq
    obtain ⟨rfl, -⟩ := List.cons.inj heq
    exact absurd hc (by decide)

/-! ## Numbers and strings as values -/

theorem Literal.mem_text {literal : Literal} {c : Char} (h : c ∈ literal.text) :
    c = '-' ∨ c.isDigit = true := by
  rcases List.mem_append.mp h with hsign | hdigit
  · rw [signText] at hsign
    split at hsign
    · exact Or.inl (List.mem_singleton.mp hsign)
    · cases hsign
  · exact Or.inr (literal.isDigit c hdigit)

/-- The character stands for itself in a string. -/
structure IsPlain (c : Char) : Prop where
  quote : c ≠ '"'
  backslash : c ≠ '\\'
  control : isControl c = false

theorem Literal.isPlain_of_mem_text {literal : Literal} {c : Char} (h : c ∈ literal.text) :
    IsPlain c := by
  rcases literal.mem_text h with rfl | hdigit
  · exact ⟨by decide, by decide, by decide⟩
  · have hle := (Text.isDigit_iff.mp hdigit).1
    refine ⟨?_, ?_, ?_⟩
    · rintro rfl
      exact absurd hdigit (by decide)
    · rintro rfl
      exact absurd hdigit (by decide)
    · rw [isControl, decide_eq_false_iff_not]
      omega

/-- A string of plain characters is read as it stands. -/
theorem readCharacters_plain {text : List Char} (h : ∀ c ∈ text, IsPlain c) (rest : List Char) :
    readCharacters (text ++ '"' :: rest) = .ok (text, rest) := by
  induction text with
  | nil => rw [List.nil_append, readCharacters, if_pos rfl]
  | cons c text ih =>
    rw [List.forall_mem_cons] at h
    rw [List.cons_append, readCharacters, if_neg h.1.quote, if_neg h.1.backslash,
      if_neg (Bool.eq_false_iff.mp h.1.control), ih h.2]
    rfl

theorem readValue_quoted (depth : Nat) (literal : Literal) (rest : List Char) :
    readValue depth ('"' :: (literal.text ++ '"' :: rest)) =
      .ok (.string (String.ofList literal.text), rest) := by
  have hread := readCharacters_plain (fun c hc => literal.isPlain_of_mem_text hc) rest
  have hspace : skipSpace ('"' :: (literal.text ++ '"' :: rest)) =
      '"' :: (literal.text ++ '"' :: rest) := rfl
  rw [readValue, hspace]
  simp only [readString, hread]
  rfl

theorem readValue_literal (depth : Nat) (literal : Literal) (rest : List Char) :
    readValue depth (literal.text ++ rest) =
      (readNumber (literal.text ++ rest)).map fun (n, s) => (.number n, s) := by
  have hne : literal.text ≠ [] := List.append_ne_nil_of_right_ne_nil _ literal.digits_ne_nil
  obtain ⟨c, tail, hcons⟩ := List.exists_cons_of_ne_nil hne
  have hc : c = '-' ∨ c.isDigit = true := literal.mem_text (hcons ▸ List.mem_cons_self)
  have hother : ∀ d : Char, d ≠ '-' → d.isDigit = false → c ≠ d := by
    rintro d hminus hdigit rfl
    rw [hdigit] at hc
    exact hc.elim hminus Bool.false_ne_true
  have hspace : isSpace c = false := by
    have hne : c ≠ ' ' ∧ c ≠ '\n' ∧ c ≠ '\t' ∧ c ≠ '\r' :=
      ⟨hother _ (by decide) (by decide), hother _ (by decide) (by decide),
        hother _ (by decide) (by decide),
        hother _ (by decide) (by decide)⟩
    simp [isSpace, hne]
  have hstart : (c = '-' || c.isDigit) = true := by simpa using hc
  rw [hcons, List.cons_append, readValue, skipSpace,
    List.dropWhile_cons_of_neg (Bool.eq_false_iff.mp hspace)]
  simp only
  rw [if_neg (hother _ (by decide) (by decide)), if_neg (hother _ (by decide) (by decide)),
    if_neg (hother _ (by decide) (by decide)), if_pos hstart]

end CardCensus.Json
