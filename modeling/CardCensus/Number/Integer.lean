import CardCensus.Number.Double

/-!
# Integers in texts

An integer is written as decimal digits, at least one, with or without a sign before them. Some
formats also write numbers with up to sixteen digits.

Results:
* `signed?_of_digits`: digits alone stand for the number that they write.
* `decimal?_toString`, `signed?_toString`: written numbers are read as themselves.
-/

namespace CardCensus.Number

/-- The value of a decimal digit. -/
def digitValue (c : Char) : Nat := c.toNat - '0'.toNat

/-- The value of a digit in a number system with at most sixteen digits. -/
def digitIn? (radix : Nat) (c : Char) : Option Nat :=
  let value : Option Nat :=
    if '0' ≤ c ∧ c ≤ '9' then some (digitValue c)
    else if 'a' ≤ c ∧ c ≤ 'f' then some (c.toNat - 'a'.toNat + 10)
    else if 'A' ≤ c ∧ c ≤ 'F' then some (c.toNat - 'A'.toNat + 10)
    else none
  value.filter (· < radix)

/-- The number that a row of digits in a number system stands for. -/
def valueIn? (radix : Nat) (digits : List Char) : Option Nat :=
  digits.foldlM (fun n c => (digitIn? radix c).map (radix * n + ·)) 0

/-- The number that a row of decimal digits stands for. -/
def decimalValue (digits : List Char) : Nat :=
  digits.foldl (fun n c => 10 * n + digitValue c) 0

/-- The number that a text of decimal digits stands for. -/
def decimal? (digits : List Char) : Option Nat :=
  if digits.isEmpty || !digits.all Char.isDigit then none else some (decimalValue digits)

/-- The integer that a text stands for. -/
def signed? : List Char → Option Int
  | '-' :: digits => (decimal? digits).map fun n => -Int.ofNat n
  | '+' :: digits => (decimal? digits).map Int.ofNat
  | digits => (decimal? digits).map Int.ofNat

/-- The integer of 64 bits that a text stands for. -/
def int64? (s : List Char) : Option Int :=
  (signed? s).filter fitsInt64

theorem signed?_of_digits {digits : List Char} (h : digits ≠ [])
    (hd : digits.all Char.isDigit = true) :
    signed? digits = some (Int.ofNat (decimalValue digits)) := by
  have he : digits.isEmpty = false := by simpa using h
  unfold signed?
  split
  · simp at hd
  · simp at hd
  · simp [decimal?, he, hd]

/-! ## Written numbers -/

theorem notMem_toDigits {c : Char} (h : c.isDigit = false) (n : Nat) : c ∉ Nat.toDigits 10 n := by
  intro hmem
  rw [Nat.isDigit_of_mem_toDigits (by decide) (by decide) hmem] at h
  cases h

theorem all_toDigits (n : Nat) : (Nat.toDigits 10 n).all Char.isDigit = true :=
  List.all_eq_true.mpr fun _ hc => Nat.isDigit_of_mem_toDigits (by decide) (by decide) hc

theorem decimalValue_toDigits (n : Nat) : decimalValue (Nat.toDigits 10 n) = n :=
  Nat.ofDigitChars_ten_toDigits

theorem toList_toString_ofNat (n : Nat) : (toString (Int.ofNat n)).toList = Nat.toDigits 10 n := by
  change (toString n).toList = _
  rw [Nat.toString_eq_ofList_toDigits, String.toList_ofList]

theorem toList_toString_negSucc (n : Nat) :
    (toString (Int.negSucc n)).toList = '-' :: Nat.toDigits 10 (n + 1) := by
  rw [Int.toString_eq_repr, Int.repr_eq_if, if_neg (by omega), String.toList_append,
    Nat.toList_repr]
  rfl

theorem decimal?_toDigits (n : Nat) : decimal? (Nat.toDigits 10 n) = some n := by
  simp [decimal?, all_toDigits, decimalValue_toDigits, Nat.toDigits_ne_nil]

/-- A written number is read as itself. -/
theorem decimal?_toString (n : Nat) : decimal? (toString n).toList = some n := by
  rw [Nat.toString_eq_ofList_toDigits, String.toList_ofList, decimal?_toDigits]

/-- So is a written integer. -/
theorem signed?_toString (n : Int) : signed? (toString n).toList = some n := by
  cases n with
  | ofNat n =>
    rw [toList_toString_ofNat, signed?_of_digits Nat.toDigits_ne_nil (all_toDigits n),
      decimalValue_toDigits]
  | negSucc n =>
    rw [toList_toString_negSucc, signed?, decimal?_toDigits]
    rfl

end CardCensus.Number
