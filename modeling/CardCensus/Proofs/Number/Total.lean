import CardCensus.Number.Total
import CardCensus.Proofs.Number.Sums

/-!
# What a total amounts to

A total of integers is their sum as long as every running total fits 64 bits, and from the first one
on that does not it is a rounded total that remembers this. A rounded total of bounded summands
stays within a bound however many there are, and so does the estimate of its error: what is added
last is lost in rounding once the total has grown too large for it.

Results:
* `ofList_integers`: integers whose running totals fit are added up exactly.
* `ofList_integers_overflowed`: integers with a running total that does not fit are remembered.
* `isWithin_toReal_ofList`: the total of bounded summands is bounded.
-/

namespace CardCensus.Number

theorem natAbs_le_of_fitsInt64 {n : Int} (h : fitsInt64 n = true) : n.natAbs ≤ 2 ^ 63 := by
  rw [fitsInt64, Bool.and_eq_true, decide_eq_true_eq, decide_eq_true_eq, minInt64, maxInt64] at h
  omega

namespace Total

/-! ## Integers -/

/-- **Run.** Integers whose running totals fit are added up exactly. -/
theorem foldl_add_exact {n : Int} {ints : List Int}
    (h : ∀ taken, taken <+: ints → fitsInt64 (n + taken.sum) = true) :
    (ints.map Summand.integer).foldl add (exact n) = exact (n + ints.sum) := by
  induction ints generalizing n with
  | nil => rw [List.map_nil, List.foldl_nil, List.sum_nil, Int.add_zero]
  | cons first rest ih =>
    have hfirst : fitsInt64 (n + first) = true := by
      have hone := h [first] (List.prefix_append [first] rest)
      rwa [List.sum_singleton] at hone
    rw [List.map_cons, List.foldl_cons, add_integer_exact hfirst, ih, List.sum_cons, Int.add_assoc]
    intro taken htaken
    have hmore := h (first :: taken) (List.prefix_cons_inj first |>.mpr htaken)
    rwa [List.sum_cons, ← Int.add_assoc] at hmore

/-- A rounded total of integers alone keeps what it remembers. -/
theorem foldl_add_rounded (ints : List Int) (total error : Float) (overflowed : Bool) :
    ∃ total' error', (ints.map Summand.integer).foldl add (rounded total error overflowed) =
      rounded total' error' overflowed := by
  induction ints generalizing total error with
  | nil => exact ⟨total, error, rfl⟩
  | cons first rest ih => exact ih _ _

/-- **Run.** A running total that does not fit is remembered to the end. -/
theorem foldl_add_overflowed {n : Int} {ints taken : List Int} (hn : fitsInt64 n = true)
    (htaken : taken <+: ints)
    (h : fitsInt64 (n + taken.sum) = false) :
    ∃ total error, (ints.map Summand.integer).foldl add (exact n) = rounded total error true := by
  induction ints generalizing n taken with
  | nil =>
    obtain rfl := List.prefix_nil.mp htaken
    rw [List.sum_nil, Int.add_zero, hn] at h
    contradiction
  | cons first rest ih =>
    rw [List.map_cons, List.foldl_cons]
    cases hfirst : fitsInt64 (n + first) with
    | false =>
      have hstep : ∃ total error, (exact n).add (.integer first) = rounded total error true := by
        rw [add, if_neg (Bool.eq_false_iff.mp hfirst)]
        exact ⟨_, _, rfl⟩
      obtain ⟨total, error, hstep⟩ := hstep
      rw [hstep]
      exact foldl_add_rounded rest total error true
    | true =>
      rw [add_integer_exact hfirst]
      cases taken with
      | nil =>
        rw [List.sum_nil, Int.add_zero, hn] at h
        contradiction
      | cons head tail =>
        obtain ⟨rfl, htail⟩ := List.cons_prefix_cons.mp htaken
        rw [List.sum_cons, ← Int.add_assoc] at h
        exact ih hfirst htail h

theorem ofList_integers {ints : List Int}
    (h : ∀ taken, taken <+: ints → fitsInt64 taken.sum = true) :
    ofList (ints.map .integer) = exact ints.sum := by
  rw [ofList, foldl_add_exact, Int.zero_add]
  intro taken htaken
  rw [Int.zero_add]
  exact h taken htaken

theorem ofList_integers_overflowed {ints taken : List Int} (htaken : taken <+: ints)
    (h : fitsInt64 taken.sum = false) :
    ∃ total error, ofList (ints.map .integer) = rounded total error true :=
  foldl_add_overflowed (by decide) htaken (by rwa [Int.zero_add])

/-! ## Bounded summands -/

/-- The summand is an integer of 64 bits, or a double within a power of two. -/
def IsBoundedSummand (b : Int) : Summand → Prop
  | .integer n => fitsInt64 n = true
  | .real x => IsWithin b x

/-- The total is an integer of 64 bits, or rounded within a bound, as is the estimate of
    its error. -/
def IsBounded (b : Int) : Total → Prop
  | exact n => fitsInt64 n = true
  | rounded total error _ => IsWithin (b + 54) total ∧ IsWithin (b + 110) error

section

variable {b : Int} {total error x : Float} {n : Int}

theorem isWithin_ofInt_of_natAbs_le (hb : 63 ≤ b) (h : n.natAbs ≤ 2 ^ 63) :
    IsWithin b (.ofInt n) := by
  have hbits : IsWithin 63 (.ofInt n) :=
    isWithin_ofInt (by norm_num) (by norm_num) (by exact_mod_cast h)
  exact hbits.mono hb

theorem natAbs_tmod_splitSize_le (n : Int) : (n.tmod splitSize).natAbs ≤ n.natAbs := by
  rw [Int.natAbs_tmod]
  exact Nat.mod_le _ _

theorem natAbs_sub_tmod_splitSize_le (n : Int) : (n - n.tmod splitSize).natAbs ≤ n.natAbs := by
  have hquotient : n - n.tmod splitSize = splitSize * n.tdiv splitSize := by
    rw [Int.tmod_def, sub_sub_cancel]
  rw [hquotient, Int.natAbs_mul, Int.natAbs_tdiv]
  exact Nat.mul_div_le _ _

/-- **Step.** The rounded total does not leave its bound, and the estimate of its error takes up no
    more than the total and the summand together. -/
theorem isWithin_addReal (hb : 63 ≤ b) (hb' : b ≤ 912) (ht : IsWithin (b + 54) total)
    (he : IsWithin (b + 110) error)
    (hx : IsWithin b x) :
    IsWithin (b + 54) (addReal total error x).1 ∧ IsWithin (b + 110) (addReal total error x).2 := by
  have hnext : IsWithin (b + 54) (total + x) :=
    isWithin_add ht hx le_rfl (by omega) (by omega) (by omega) (two_pow_add_le_of_small le_rfl)
  have herror : ∀ lost, IsWithin (b + 56) lost → IsWithin (b + 110) (error + lost) :=
    fun lost hlost =>
    isWithin_add he hlost le_rfl (by omega) (by omega) (by omega)
      (two_pow_add_le_of_small (by omega))
  rw [addReal]
  split
  · have hlost : IsWithin (b + 55) (total - (total + x)) :=
      isWithin_sub ht hnext (by omega) (by omega) (by omega) (by omega)
        (two_pow_add_le_of_le (by omega) (by omega))
    exact ⟨hnext, herror _ (isWithin_add hlost hx (by omega) (by omega) (by omega) (by omega)
      (two_pow_add_le_of_le (by omega) (by omega)))⟩
  · have hlost : IsWithin (b + 55) (x - (total + x)) :=
      isWithin_sub hx hnext (by omega) (by omega) (by omega) (by omega)
        (two_pow_add_le_of_le (by omega) (by omega))
    exact ⟨hnext, herror _ (isWithin_add hlost ht (by omega) (by omega) (by omega) (by omega)
      (two_pow_add_le_of_le (by omega) (by omega)))⟩

theorem isWithin_addInteger (hb : 63 ≤ b) (hb' : b ≤ 912) (ht : IsWithin (b + 54) total)
    (he : IsWithin (b + 110) error) (hn : fitsInt64 n = true) :
    IsWithin (b + 54) (addInteger total error n).1 ∧
      IsWithin (b + 110) (addInteger total error n).2 := by
  have hsize := natAbs_le_of_fitsInt64 hn
  have hpart : ∀ part : Int, part.natAbs ≤ n.natAbs → IsWithin b (.ofInt part) := fun part hle =>
    isWithin_ofInt_of_natAbs_le hb (hle.trans hsize)
  rw [addInteger]
  split
  · obtain ⟨ht', he'⟩ := isWithin_addReal hb hb' ht he (hpart _ (natAbs_sub_tmod_splitSize_le n))
    exact isWithin_addReal hb hb' ht' he' (hpart _ (natAbs_tmod_splitSize_le n))
  · exact isWithin_addReal hb hb' ht he (hpart n le_rfl)

theorem isWithin_round (hb : 63 ≤ b) (hn : fitsInt64 n = true) :
    IsWithin (b + 54) (round n).1 ∧ IsWithin (b + 110) (round n).2 := by
  have hsize := natAbs_le_of_fitsInt64 hn
  have hpart : ∀ part : Int, part.natAbs ≤ n.natAbs → IsWithin b (.ofInt part) := fun part hle =>
    isWithin_ofInt_of_natAbs_le hb (hle.trans hsize)
  rw [round]
  split
  · exact ⟨(hpart _ (natAbs_sub_tmod_splitSize_le n)).mono (by omega),
      (hpart _ (natAbs_tmod_splitSize_le n)).mono (by omega)⟩
  · exact ⟨(hpart n le_rfl).mono (by omega), (hpart 0 (Nat.zero_le _)).mono (by omega)⟩

/-- **Step.** A total stays bounded when a bounded summand is added. -/
theorem isBounded_add (hb : 63 ≤ b) (hb' : b ≤ 912) {running : Total} {summand : Summand}
    (h : running.IsBounded b)
    (hs : IsBoundedSummand b summand) : (running.add summand).IsBounded b := by
  cases running with
  | exact n =>
    obtain ⟨ht, he⟩ := isWithin_round hb h
    cases summand with
    | integer m =>
      rw [add]
      split
      · assumption
      · exact isWithin_addInteger hb hb' ht he hs
    | real x => exact isWithin_addReal hb hb' ht he hs
  | rounded total error overflowed =>
    cases summand with
    | integer m => exact isWithin_addInteger hb hb' h.1 h.2 hs
    | real x => exact isWithin_addReal hb hb' h.1 h.2 hs

/-- **Run.** The total of bounded summands is bounded. -/
theorem isBounded_ofList (hb : 63 ≤ b) (hb' : b ≤ 912) {summands : List Summand}
    (h : ∀ summand ∈ summands, IsBoundedSummand b summand) : (ofList summands).IsBounded b :=
  List.foldlRecOn summands add (show fitsInt64 0 = true by decide) fun _ hrunning summand hmem =>
    isBounded_add hb hb' hrunning (h summand hmem)

theorem isWithin_toReal (hb : 63 ≤ b) (hb' : b ≤ 912) {running : Total} (h : running.IsBounded b) :
    IsWithin (b + 111) running.toReal := by
  cases running with
  | exact n => exact isWithin_ofInt_of_natAbs_le (by omega) (natAbs_le_of_fitsInt64 h)
  | rounded total error overflowed =>
    obtain ⟨ht, he⟩ := h
    rw [toReal, corrected, he.isNotANumber]
    exact isWithin_add ht he (by omega) (by omega) (by omega) (by omega)
      (two_pow_add_le_of_le (by omega) (by omega))

theorem isWithin_toReal_ofList (hb : 63 ≤ b) (hb' : b ≤ 912) {summands : List Summand}
    (h : ∀ summand ∈ summands, IsBoundedSummand b summand) :
    IsWithin (b + 111) (ofList summands).toReal :=
  isWithin_toReal hb hb' (isBounded_ofList hb hb' h)

end

end Total

end CardCensus.Number
