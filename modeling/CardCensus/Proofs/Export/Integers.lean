import CardCensus.Export.Printing
import CardCensus.Proofs.Json.Literals
import CardCensus.Proofs.Number.Total
import CardCensus.Proofs.Text.Split
import CardCensus.Proofs.Text.Upper

/-!
# Integers in an export

The integers of a printing stand in an export with quotes or without. In quotes an integer that does
not fit 64 bits is absent. Without quotes it is cut to the nearest integer of 64 bits, be it that
its digits are kept or that it became a double, and it is refused only where the doubles end. Where
that is depends on its digits, as the digits that are kept, the power of ten and their product are
each rounded: a number that is not within a part of `2 ^ -50` of `2 ^ 1024` is cut below it and
refused above it.

Results:
* `lenientInteger?_quoted`: integers in quotes.
* `readNumber_cases`: integers without quotes.
* `IntegerField.read_agrees_iff_fits`: the two ways to write the integers of a printing.
-/

namespace CardCensus.Export

open CardCensus.Json
open CardCensus.Number
open Float.Model (UnpackedFloat)

variable {literal : Literal} {rest : List Char}

/-! ## In quotes -/

theorem signed?_text (literal : Literal) : signed? literal.text = some literal.value := by
  have hall : literal.digits.all Char.isDigit = true := List.all_eq_true.mpr literal.isDigit
  have hne : literal.digits.isEmpty = false := List.isEmpty_eq_false_iff.mpr literal.digits_ne_nil
  rw [Literal.text, Literal.value]
  cases literal.negative with
  | false => exact signed?_of_digits literal.digits_ne_nil hall
  | true =>
    have hdecimal : decimal? literal.digits = some (decimalValue literal.digits) := by
      rw [decimal?, hne, hall]
      rfl
    show (decimal? literal.digits).map _ = _
    rw [hdecimal]
    rfl

/-- A number in quotes is absent if it does not fit 64 bits. -/
theorem lenientInteger?_quoted (literal : Literal) :
    lenientInteger? (.string (String.ofList literal.text)) =
    if fitsInt64 literal.value then some literal.value else none := by
  have htrim : Text.trim literal.text = literal.text := Text.trim_eq_self fun c hc => by
    rcases literal.mem_text hc with rfl | hdigit
    · decide
    · exact Text.isBlank_of_isAlphanum (by simp [Char.isAlphanum, hdigit])
  rw [lenientInteger?, String.toList_ofList, htrim, int64?, signed?_text, Option.filter_some]

/-! ## Without quotes -/

theorem clampInt64_of_fits {n : Int} (h : fitsInt64 n = true) : clampInt64 n = n := by
  rw [fitsInt64, Bool.and_eq_true, decide_eq_true_eq, decide_eq_true_eq] at h
  rw [clampInt64, min_eq_right h.2, max_eq_right h.1]

theorem clampInt64_withSign_of_le {negative : Bool} {n : Nat} (h : 2 ^ 63 ≤ n) :
    clampInt64 (withSign negative n) = if negative then minInt64 else maxInt64 := by
  rw [withSign, clampInt64, minInt64, maxInt64]
  cases negative with
  | false => simp only [Bool.false_eq_true, if_false, Int.ofNat_eq_natCast]; omega
  | true => simp only [if_true, Int.ofNat_eq_natCast]; omega

section

variable {x : Float} {m : Nat} {e : Int} {hm : 0 < m}

theorem wholeNumber?_of_le {s : UnpackedFloat.Sign} (hx : unpacked x = .finite s m e hm)
    (h : 2 ^ 63 ≤ value m e) :
    wholeNumber? (.real x) = some (if s == .negative then minInt64 else maxInt64) := by
  rw [wholeNumber?, isWhole_of_le hx h, if_pos rfl, truncate_of_le hx h]

theorem wholeNumber?_neg_of_le (hx : unpacked x = .finite .positive m e hm)
    (h : 2 ^ 63 ≤ value m e) :
    wholeNumber? (.real (-x)) = some minInt64 := by
  have hneg : unpacked (-x) = .finite .negative m e hm := by
    rw [unpacked_neg, hx]
    rfl
  exact wholeNumber?_of_le hneg h

end

/-- Minus zero is a double of its own, and whole. -/
theorem wholeNumber?_negated_zero : wholeNumber? (.real (negatedReal 0)) = some 0 := by
  have hread : read (negatedReal 0) = .finite ⟨true, 0, -1074⟩ := rfl
  rw [wholeNumber?, isWhole, truncate, hread]
  simp only [Dyadic.isWhole_zero, Dyadic.wholePart_zero]
  rfl

/-- A number whose digits are all kept is read as the nearest integer of 64 bits. -/
theorem finishNumber_kept (negative : Bool) {kept : Nat} (hmax : kept ≤ maxKept)
    (hrest : EndsNumber rest) :
    ∃ numeral, finishNumber (!negative) kept 0 rest = .ok (numeral, rest) ∧
      wholeNumber? numeral = some (clampInt64 (withSign negative kept)) := by
  rw [finishNumber_of_ends _ _ _ hrest, if_neg (not_not.mpr rfl)]
  cases negative with
  | false => exact ⟨.integer kept, if_pos rfl, rfl⟩
  | true =>
    rw [Bool.not_true, if_neg Bool.false_ne_true]
    by_cases hzero : kept = 0
    · subst hzero
      exact ⟨.real (negatedReal 0), if_pos (Or.inl rfl), wholeNumber?_negated_zero⟩
    · by_cases hlarge : 0x8000000000000000 < kept
      · refine ⟨.real (negatedReal kept), if_pos (Or.inr hlarge), ?_⟩
        obtain ⟨m, e, hm, hparts, hclose⟩ := exists_unpacked_kept (by omega) hmax
        have hsize : (2 : ℚ) ^ (63 : Int) ≤ kept := by exact_mod_cast hlarge.le
        rw [clampInt64_withSign_of_le hlarge.le]
        exact wholeNumber?_neg_of_le hparts
          ((zpow_natCast (2 : ℚ) 63).symm.trans_le (hclose.powers 63 hsize))
      · exact ⟨.integer (-Int.ofNat kept), if_neg (not_or.mpr ⟨hzero, hlarge⟩), rfl⟩

/-- A number with more digits than are kept is cut to the last integer of 64 bits on its side, or it
    reaches the end of the doubles. -/
theorem numberOfParts_cases (negative : Bool) {kept k : Nat} (hkept : 2 ^ 60 ≤ kept)
    (hmax : kept ≤ maxKept)
    (hk : 0 < k) (rest : List Char) :
    (∃ numeral, numberOfParts (!negative) kept k rest = .ok (numeral, rest) ∧
      wholeNumber? numeral = some (if negative then minInt64 else maxInt64) ∧
      (1 - unitRoundoff) ^ 3 * (kept * 10 ^ k) < 2 ^ 1024) ∨
    (numberOfParts (!negative) kept k rest = .error (.here .numberOutOfRange rest) ∧
      2 ^ 1024 ≤ (1 + unitRoundoff) ^ 3 * (kept * 10 ^ k)) := by
  rw [numberOfParts]
  rcases scaleTen_cases k (by omega) hmax with ⟨hnone, hlarge⟩ | ⟨x, m, e, hm, hsome, hparts, hlow,
    hhigh⟩
  · rw [hnone]
    exact Or.inr ⟨rfl, hlarge⟩
  · rw [hsome]
    have hkept' : (2 : ℚ) ^ 60 ≤ kept := by exact_mod_cast hkept
    have hpower : (10 : ℚ) ≤ 10 ^ k := le_self_pow₀ (by norm_num) hk.ne'
    have hbeyond : 2 ^ 63 ≤ value m e :=
      calc (2 : ℚ) ^ 63 ≤ (1 - unitRoundoff) ^ 3 * (2 ^ 60 * 10) := by norm_num [unitRoundoff]
        _ ≤ (1 - unitRoundoff) ^ 3 * (kept * 10 ^ k) :=
          mul_le_mul_of_nonneg_left (mul_le_mul hkept' hpower (by norm_num) (by positivity))
            (by norm_num [unitRoundoff])
        _ ≤ value m e := hlow
    refine Or.inl ⟨_, rfl, ?_, hlow.trans_lt hhigh⟩
    cases negative with
    | false => exact wholeNumber?_of_le hparts hbeyond
    | true => exact wholeNumber?_neg_of_le hparts hbeyond

/-! ## Where the doubles end -/

/-- The power of two at which the doubles end. -/
def doublesEnd : Nat := 2 ^ 1024

/-- How close to the end of the doubles the digits decide whether a number is refused. -/
def doublesMargin : Nat := 2 ^ 974

theorem doublesEnd_eq : (doublesEnd : ℚ) = 2 ^ 1024 := by
  rw [doublesEnd, Nat.cast_pow, Nat.cast_ofNat]

theorem doublesMargin_eq : (doublesMargin : ℚ) = 4 * unitRoundoff * doublesEnd := by
  have hsplit : (2 : ℚ) ^ 1024 = 2 ^ 974 * 2 ^ 50 := by rw [← pow_add]
  rw [doublesEnd_eq, hsplit, doublesMargin, Nat.cast_pow, Nat.cast_ofNat, unitRoundoff]
  generalize (2 : ℚ) ^ 974 = margin
  ring

section

variable {n kept k : Nat}

/-- What fits 64 bits is far from the end of the doubles. -/
theorem add_doublesMargin_le (h : n ≤ maxKept) : n + doublesMargin ≤ doublesEnd := by
  have hmargin : 2 ^ 64 ≤ 2 ^ 974 := pow_le_pow_right₀ one_le_two (by norm_num)
  have hend : 2 ^ 974 + 2 ^ 974 ≤ 2 ^ 1024 := by
    rw [← mul_two, ← pow_succ]
    exact pow_le_pow_right₀ one_le_two (by norm_num)
  rw [maxKept] at h
  rw [doublesMargin, doublesEnd]
  generalize 2 ^ 974 = margin at *
  generalize 2 ^ 1024 = last at *
  omega

theorem lt_doublesEnd_add_of_le (h : n ≤ maxKept) : n < doublesEnd + doublesMargin := by
  have hmargin : 0 < doublesMargin := by
    rw [doublesMargin]
    exact pow_pos two_pos 974
  have hend := add_doublesMargin_le h
  omega

/-- The digits that are not kept count a small part of the number. -/
theorem cast_le_kept (hkept : 2 ^ 60 ≤ kept) (hn : n < (kept + 1) * 10 ^ k) :
    (n : ℚ) ≤ (1 + 2⁻¹ ^ 60) * (kept * 10 ^ k) := by
  have hkept' : (2 : ℚ) ^ 60 ≤ kept := by exact_mod_cast hkept
  calc (n : ℚ) ≤ (kept + 1) * 10 ^ k := by exact_mod_cast hn.le
    _ = kept * 10 ^ k + 2⁻¹ ^ 60 * (2 ^ 60 * 10 ^ k) := by ring
    _ ≤ kept * 10 ^ k + 2⁻¹ ^ 60 * (kept * 10 ^ k) := by gcongr
    _ = (1 + 2⁻¹ ^ 60) * (kept * 10 ^ k) := by ring

/-- A number whose kept digits make a double lies before the end of the doubles or close
    behind it. -/
theorem lt_doublesEnd_add (hkept : 2 ^ 60 ≤ kept) (hn : n < (kept + 1) * 10 ^ k)
    (h : (1 - unitRoundoff) ^ 3 * (kept * 10 ^ k) < 2 ^ 1024) : n < doublesEnd + doublesMargin := by
  have hdropped := cast_le_kept hkept hn
  have hpos : (0 : ℚ) < 2 ^ 1024 := by positivity
  have hrest : 0 < (1 - unitRoundoff) ^ 3 := by norm_num [unitRoundoff]
  rw [← Nat.cast_lt (α := ℚ), Nat.cast_add, doublesMargin_eq, doublesEnd_eq]
  generalize (2 : ℚ) ^ 1024 = last at *
  generalize (kept : ℚ) * 10 ^ k = product at *
  apply lt_of_mul_lt_mul_left _ hrest.le
  calc (1 - unitRoundoff) ^ 3 * n ≤ (1 - unitRoundoff) ^ 3 * ((1 + 2⁻¹ ^ 60) * product) :=
        mul_le_mul_of_nonneg_left hdropped hrest.le
    _ = (1 + 2⁻¹ ^ 60) * ((1 - unitRoundoff) ^ 3 * product) := by ring
    _ < (1 + 2⁻¹ ^ 60) * last := mul_lt_mul_of_pos_left h (by positivity)
    _ ≤ (1 - unitRoundoff) ^ 3 * (1 + 4 * unitRoundoff) * last :=
        mul_le_mul_of_nonneg_right (by norm_num [unitRoundoff]) hpos.le
    _ = (1 - unitRoundoff) ^ 3 * (last + 4 * unitRoundoff * last) := by ring

/-- A number whose kept digits reach the end of the doubles lies behind it or close before it. -/
theorem doublesEnd_lt_add (hn : kept * 10 ^ k ≤ n)
    (h : 2 ^ 1024 ≤ (1 + unitRoundoff) ^ 3 * (kept * 10 ^ k)) :
    doublesEnd < n + doublesMargin := by
  have hkept : (kept * 10 ^ k : ℚ) ≤ n := by exact_mod_cast hn
  have hpos : (0 : ℚ) < 2 ^ 1024 := by positivity
  have hfactor : 0 < (1 + unitRoundoff) ^ 3 := by norm_num [unitRoundoff]
  rw [← Nat.cast_lt (α := ℚ), Nat.cast_add, doublesMargin_eq, doublesEnd_eq]
  generalize (2 : ℚ) ^ 1024 = last at *
  have hlast : last ≤ (1 + unitRoundoff) ^ 3 * n :=
    h.trans (mul_le_mul_of_nonneg_left hkept hfactor.le)
  have hless : (1 + unitRoundoff) ^ 3 * (1 - 4 * unitRoundoff) * last < 1 * last :=
    mul_lt_mul_of_pos_right (by norm_num [unitRoundoff]) hpos
  apply lt_of_mul_lt_mul_left _ hfactor.le
  calc (1 + unitRoundoff) ^ 3 * last
      = (1 + unitRoundoff) ^ 3 * (1 - 4 * unitRoundoff) * last + (1 + unitRoundoff) ^ 3 *
        (4 * unitRoundoff * last) := by
        ring
    _ < (1 + unitRoundoff) ^ 3 * n + (1 + unitRoundoff) ^ 3 * (4 * unitRoundoff * last) := by
      linarith
    _ = (1 + unitRoundoff) ^ 3 * (n + 4 * unitRoundoff * last) := by ring

end

/-- The nearest integer of 64 bits is read of a number, or the number reaches the end of the doubles
    and is refused. -/
theorem readNumber_cases (literal : Literal) (hrest : EndsNumber rest) :
    (∃ numeral, readNumber (literal.text ++ rest) = .ok (numeral, rest) ∧
      wholeNumber? numeral = some (clampInt64 literal.value) ∧
      literal.value.natAbs < doublesEnd + doublesMargin) ∨
    (readNumber (literal.text ++ rest) = .error (.here .numberOutOfRange rest) ∧
      doublesEnd < literal.value.natAbs + doublesMargin) := by
  obtain ⟨taken, dropped, hdigits, hread, hmax, hdropped⟩ :=
    readUnsigned_digits (!literal.negative) literal hrest
  rw [readNumber_literal, hread, literal.natAbs_value, Literal.value, hdigits, decimalValue_append]
  -- Digits that are not kept are counted only: with any of them the number becomes a double.
  by_cases hnone : dropped = []
  · subst hnone
    have hvalue : decimalValue taken * 10 ^ ([] : List Char).length + decimalValue [] =
        decimalValue taken :=
      Nat.mul_one _
    obtain ⟨numeral, hfinish, hwhole⟩ := finishNumber_kept literal.negative hmax hrest
    rw [hvalue]
    exact Or.inl ⟨numeral, hfinish, hwhole, lt_doublesEnd_add_of_le hmax⟩
  · have hlow : decimalValue dropped < 10 ^ dropped.length :=
      decimalValue_lt fun c hc => literal.isDigit c (hdigits ▸ List.mem_append_right taken hc)
    have hkept : 2 ^ 60 ≤ decimalValue taken := by
      have hfull := hdropped hnone
      rw [maxKept] at hfull
      omega
    have hlength : 0 < dropped.length := List.length_pos_iff.mpr hnone
    have hbeyond : 2 ^ 63 ≤ decimalValue taken * 10 ^ dropped.length + decimalValue dropped :=
      calc 2 ^ 63 ≤ 2 ^ 60 * 10 ^ 1 := by norm_num
        _ ≤ decimalValue taken * 10 ^ dropped.length :=
          Nat.mul_le_mul hkept (Nat.pow_le_pow_right (by norm_num) hlength)
        _ ≤ decimalValue taken * 10 ^ dropped.length + decimalValue dropped := Nat.le_add_right _ _
    rw [finishNumber_of_ends _ _ _ hrest, if_pos hlength.ne', clampInt64_withSign_of_le hbeyond]
    rcases numberOfParts_cases literal.negative hkept hmax hlength rest with ⟨numeral, hok, hwhole,
      hend⟩ | ⟨herror, hend⟩
    · refine Or.inl ⟨numeral, hok, hwhole, lt_doublesEnd_add hkept ?_ hend⟩
      rw [Nat.add_one_mul]
      exact Nat.add_lt_add_left hlow _
    · exact Or.inr ⟨herror, doublesEnd_lt_add (Nat.le_add_right _ _) hend⟩

/-! ## Fields -/

/-- A field of a printing that holds an integer. -/
structure IntegerField where
  name : String
  put : ExportedCard → Option Int → ExportedCard

/-- The fields of a printing that hold integers. -/
def integerFields : List IntegerField :=
  [⟨"power", fun card x => { card with power := x }⟩,
    ⟨"toughness", fun card x => { card with toughness := x }⟩,
    ⟨"loyalty", fun card x => { card with loyalty := x }⟩,
    ⟨"multiverseid", fun card x => { card with multiverseId := x }⟩]

namespace IntegerField

variable {f : IntegerField} {progress : RecordKind.Progress ExportedCard}

/-- What is read of the field from behind its colon. -/
def read (f : IntegerField) (progress : RecordKind.Progress ExportedCard) :
    Reader (RecordKind.Progress ExportedCard) :=
  fun s => ExportedCard.kind.readEntry progress f.name (':' :: s)

/-- The printing with the field. -/
def taken (f : IntegerField) (progress : RecordKind.Progress ExportedCard) (x : Option Int) :
    RecordKind.Progress ExportedCard :=
  ⟨f.put progress.value x, f.name :: progress.given⟩

theorem find?_slots (hf : f ∈ integerFields) :
    ExportedCard.slots.find? (·.name == f.name) =
      some (field f.name (lenient lenientInteger?) f.put) := by
  simp only [integerFields, List.mem_cons, List.not_mem_nil, or_false] at hf
  rcases hf with rfl | rfl | rfl | rfl <;> rfl

theorem taken_inj (hf : f ∈ integerFields) {x y : Option Int}
    (h : f.taken progress x = f.taken progress y) :
    x = y := by
  have hput : f.put progress.value x = f.put progress.value y := (RecordKind.Progress.mk.inj h).1
  simp only [integerFields, List.mem_cons, List.not_mem_nil, or_false] at hf
  rcases hf with rfl | rfl | rfl | rfl
  · exact congrArg ExportedCard.power hput
  · exact congrArg ExportedCard.toughness hput
  · exact congrArg ExportedCard.loyalty hput
  · exact congrArg ExportedCard.multiverseId hput

/-- Each of the fields keeps what its value stands for as an integer. -/
theorem read_eq (hf : f ∈ integerFields) (hgiven : f.name ∉ progress.given) (s : List Char) :
    f.read progress s =
      (readValue fieldDepth s).map fun (tree, rest) =>
        (f.taken progress (lenientInteger? tree), rest) := by
  have hnew : progress.given.contains f.name = false := by simpa using hgiven
  have hfind : ExportedCard.kind.slots.find? (·.name == f.name) =
      some (field f.name (lenient lenientInteger?) f.put) :=
    find?_slots hf
  have hcolon : skipColon (':' :: s) = .ok s := rfl
  rw [read, RecordKind.readEntry, hfind]
  simp only [hnew, Bool.false_eq_true, if_false, hcolon, field, lenient, bind, Except.bind]
  cases readValue fieldDepth s <;> rfl

theorem read_quoted (hf : f ∈ integerFields) (hgiven : f.name ∉ progress.given) (literal : Literal)
    (rest : List Char) : f.read progress ('"' :: (literal.text ++ '"' :: rest)) =
      .ok (f.taken progress (if fitsInt64 literal.value then some literal.value else none),
        rest) := by
  rw [read_eq hf hgiven, readValue_quoted, ← lenientInteger?_quoted]
  rfl

theorem read_literal_cases (hf : f ∈ integerFields) (hgiven : f.name ∉ progress.given)
    (literal : Literal)
    (hrest : EndsNumber rest) :
    (f.read progress (literal.text ++ rest) =
      .ok (f.taken progress (some (clampInt64 literal.value)), rest) ∧
      literal.value.natAbs < doublesEnd + doublesMargin) ∨
    (f.read progress (literal.text ++ rest) = .error (.here .numberOutOfRange rest) ∧
      doublesEnd < literal.value.natAbs + doublesMargin) := by
  rw [read_eq hf hgiven, readValue_literal]
  rcases readNumber_cases literal hrest with ⟨numeral, hok, hwhole, hend⟩ | ⟨herror, hend⟩
  · rw [hok, ← hwhole]
    exact Or.inl ⟨rfl, hend⟩
  · rw [herror]
    exact Or.inr ⟨rfl, hend⟩

/-- **Main theorem.** In quotes an integer is absent when it does not fit 64 bits. Without quotes it
    is the nearest integer of 64 bits, or the document is refused when the integer reaches the end
    of the doubles. So the two ways to write it agree exactly when it fits. -/
theorem read_agrees_iff_fits (hf : f ∈ integerFields) (hgiven : f.name ∉ progress.given)
    (literal : Literal)
    (hrest : EndsNumber rest) :
    f.read progress ('"' :: (literal.text ++ '"' :: rest)) =
      .ok (f.taken progress (if fitsInt64 literal.value then some literal.value else none), rest) ∧
    (f.read progress (literal.text ++ rest) =
      .ok (f.taken progress (some (clampInt64 literal.value)), rest) ∧
        literal.value.natAbs < doublesEnd + doublesMargin ∨
      f.read progress (literal.text ++ rest) = .error (.here .numberOutOfRange rest) ∧
        doublesEnd < literal.value.natAbs + doublesMargin) ∧
    (f.read progress (literal.text ++ rest) =
      f.read progress ('"' :: (literal.text ++ '"' :: rest)) ↔
      fitsInt64 literal.value = true) := by
  have hquoted := read_quoted hf hgiven literal rest
  have hplain := read_literal_cases hf hgiven literal hrest
  refine ⟨hquoted, hplain, fun hsame => ?_, fun hfits => ?_⟩
  · by_contra hlarge
    rw [hquoted, if_neg hlarge] at hsame
    rcases hplain with ⟨hok, -⟩ | ⟨herror, -⟩
    · rw [hok] at hsame
      cases taken_inj hf (Prod.mk.inj (Except.ok.inj hsame)).1
    · rw [herror] at hsame
      cases hsame
  · rcases hplain with ⟨hok, -⟩ | ⟨-, hend⟩
    · rw [hok, hquoted, if_pos hfits, clampInt64_of_fits hfits]
    · have hsmall : literal.value.natAbs ≤ maxKept :=
        (natAbs_le_of_fitsInt64 hfits).trans (by decide)
      exact absurd hend (not_lt.mpr (add_doublesMargin_le hsmall))

/-- The power of a card. -/
def power : IntegerField := ⟨"power", fun card x => { card with power := x }⟩

/-- A printing of which nothing has been read. -/
def blank : RecordKind.Progress ExportedCard := ⟨{}, []⟩

theorem power_mem : power ∈ integerFields := List.mem_cons_self

theorem power_notMem_blank : power.name ∉ blank.given := List.not_mem_nil

theorem endsNumber_brace : EndsNumber ['\x7d'] :=
  ⟨by decide, by decide, fun _ heq => nomatch heq⟩

/-- The number at which the integers of 64 bits end: with a minus it is the least of them, without
    it is one too many. -/
def bound (negative : Bool) : Literal :=
  ⟨negative, "9223372036854775808".toList, by decide, List.all_eq_true.mp (by decide), by decide⟩

theorem bound_value : (bound true).value = minInt64 ∧ (bound false).value = maxInt64 + 1 := by
  decide +kernel

theorem read_agrees_iff_fits_least :
    power ∈ integerFields ∧ power.name ∉ blank.given ∧ EndsNumber ['\x7d'] ∧
      (bound true).text = "-9223372036854775808".toList ∧
      power.read blank ((bound true).text ++ ['\x7d']) =
        .ok (⟨{ power := some (-9223372036854775808) }, ["power"]⟩, ['\x7d']) := by
  obtain ⟨hquoted, -, hagrees⟩ :=
    read_agrees_iff_fits power_mem power_notMem_blank (bound true) endsNumber_brace
  have hfits : fitsInt64 (bound true).value = true := by
    rw [bound_value.1]
    decide
  rw [hagrees.mpr hfits, hquoted, if_pos hfits, bound_value.1]
  exact ⟨power_mem, power_notMem_blank, endsNumber_brace, rfl, rfl⟩

/-- One more than the greatest integer of 64 bits: it is absent in quotes, and without them it
    becomes the greatest. -/
theorem read_clamps_or_misses :
    (bound false).text = "9223372036854775808".toList ∧ fitsInt64 (bound false).value = false ∧
      power.read blank ('"' :: ((bound false).text ++ ['"', '\x7d'])) =
        .ok (⟨{ power := none }, ["power"]⟩, ['\x7d']) ∧
      power.read blank ((bound false).text ++ ['\x7d']) =
        .ok (⟨{ power := some 9223372036854775807 }, ["power"]⟩, ['\x7d']) := by
  have hfits : fitsInt64 (bound false).value = false := by
    rw [bound_value.2]
    decide
  have hquoted := read_quoted power_mem power_notMem_blank (bound false) ['\x7d']
  rw [hfits] at hquoted
  refine ⟨rfl, hfits, hquoted, ?_⟩
  rcases read_literal_cases power_mem power_notMem_blank (bound false)
    endsNumber_brace with ⟨hok, -⟩ | ⟨-, hend⟩
  · rw [bound_value.2] at hok
    exact hok
  · have hsmall : (bound false).value.natAbs ≤ maxKept := by
      rw [bound_value.2]
      decide
    exact absurd hend (not_lt.mpr (add_doublesMargin_le hsmall))

end IntegerField

end CardCensus.Export
