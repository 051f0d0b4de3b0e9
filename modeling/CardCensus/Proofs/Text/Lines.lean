import CardCensus.Number.Integer
import CardCensus.Picture
import CardCensus.Proofs.Query.Clauses
import CardCensus.Value

/-!
# Texts of one line

A text is one line when no line feed stands in it. Numbers are, and so is whatever is put together
from one-line texts. Lines that are joined by line feeds are found again.

Results:
* `oneLine_append_iff`, `oneLine_address`: what is put together from one-line texts.
* `oneLine_display`: a number is shown on one line.
* `linesOf_joined`, `linesOf_joined_append`: the lines of a text that was joined from lines.
-/

namespace CardCensus

namespace Text

/-- No line feed stands in the text. -/
def OneLine (text : String) : Prop :=
  '\n' ∉ text.toList

instance (text : String) : Decidable (OneLine text) :=
  inferInstanceAs (Decidable ('\n' ∉ text.toList))

@[simp] theorem oneLine_append_iff {a b : String} : OneLine (a ++ b) ↔ OneLine a ∧ OneLine b := by
  rw [OneLine, String.toList_append, List.mem_append, not_or]
  rfl

@[simp] theorem oneLine_ofList_iff {s : List Char} : OneLine (String.ofList s) ↔ '\n' ∉ s := by
  rw [OneLine, String.toList_ofList]

/-! ## Numbers -/

theorem oneLine_toString (n : Int) : OneLine (toString n) := by
  have hdigits : ∀ m : Nat, OneLine m.repr := fun m => by
    rw [OneLine, Nat.toList_repr]
    exact Number.notMem_toDigits (by decide) m
  rw [Int.toString_eq_repr, Int.repr_eq_if]
  split
  · exact hdigits _
  · exact oneLine_append_iff.mpr ⟨by decide, hdigits _⟩

theorem lineFeed_notMem_signText (negative : Bool) : '\n' ∉ Number.signText negative := by
  cases negative <;> decide

theorem lineFeed_notMem_fixedPlaces (places mantissa : Nat) (exponent : Int) :
    '\n' ∉ Number.fixedPlaces places mantissa exponent := by
  have hpadded : ∀ zeros n, '\n' ∉ List.replicate zeros '0' ++ Number.decimalDigits n := by
    intro zeros n
    refine List.not_mem_append (fun hmem => ?_) (Number.notMem_toDigits (by decide) n)
    exact absurd (List.eq_of_mem_replicate hmem) (by decide)
  unfold Number.fixedPlaces
  refine List.not_mem_append (fun hmem => hpadded _ _ (List.mem_of_mem_take hmem)) ?_
  rw [List.mem_cons, not_or]
  exact ⟨by decide, fun hmem => hpadded _ _ (List.mem_of_mem_drop hmem)⟩

theorem oneLine_writePlaces (places : Nat) (x : Float) : OneLine (Number.writePlaces places x) := by
  unfold Number.writePlaces
  split
  · decide
  · rw [oneLine_ofList_iff]
    exact List.not_mem_append (lineFeed_notMem_signText _) (by decide)
  · rw [oneLine_ofList_iff]
    exact List.not_mem_append (lineFeed_notMem_signText _) (lineFeed_notMem_fixedPlaces _ _ _)

/-! ## Replacements -/

theorem mem_of_mem_replaceAll {needle replacement s : List Char} {c : Char}
    (h : c ∈ replaceAll needle replacement s) : c ∈ s ∨ c ∈ replacement := by
  fun_induction replaceAll needle replacement s with
  | case1 => exact Or.inl h
  | case2 => exact Or.inl h
  | case3 s hne before after hcut ih =>
    rw [cutAt_eq_some hcut]
    rw [List.mem_append, List.mem_append] at h
    rcases h with (h | h) | h
    · exact Or.inl (List.mem_append_left _ (List.mem_append_left _ h))
    · exact Or.inr h
    · exact (ih h).imp_left (List.mem_append_right _)

end Text

theorem Picture.oneLine_address {template : String} (h : Text.OneLine template) (number : Int) :
    Text.OneLine (Picture.address template number) := by
  rw [address, Text.oneLine_ofList_iff]
  intro hmem
  rcases Text.mem_of_mem_replaceAll hmem with hmem | hmem
  · exact h hmem
  · exact Text.oneLine_toString number hmem

/-- A cell that is no text is shown on one line. -/
theorem Value.oneLine_display {value : Value} (h : ∀ s, value ≠ .text s) :
    Text.OneLine value.display := by
  cases value with
  | text s => exact absurd rfl (h s)
  | integer n => exact Text.oneLine_toString n
  | real x => exact Text.oneLine_writePlaces _ x
  | null => decide

namespace Text

/-! ## Lines -/

/-- The lines of a text. -/
def linesOf (text : String) : List String :=
  (pieces (· == '\n') text.toList).map String.ofList

theorem OneLine.unbroken {line : String} (h : OneLine line) :
    ∀ c ∈ line.toList, (c == '\n') = false :=
  fun _ hc => beq_eq_false_iff_ne.mpr fun heq => h (heq ▸ hc)

theorem linesOf_of_oneLine {line : String} (h : OneLine line) : linesOf line = [line] := by
  rw [linesOf, pieces_eq_singleton h.unbroken, List.map_singleton, String.ofList_toList]

/-- A one-line text that is joined to others by line feeds is the first line. -/
theorem linesOf_joined_cons {line : String} (h : OneLine line) {rest : List String}
    (hrest : rest ≠ []) :
    linesOf ("\n".intercalate (line :: rest)) = line :: linesOf ("\n".intercalate rest) := by
  have hjoined : ("\n".intercalate (line :: rest)).toList =
      line.toList ++ '\n' :: ("\n".intercalate rest).toList := by
    rw [String.toList_intercalate, String.toList_intercalate]
    exact joinWith_cons (by simpa using hrest)
  rw [linesOf, hjoined, pieces_append_cons h.unbroken (beq_self_eq_true _), List.map_cons,
    String.ofList_toList]
  rfl

/-- One-line texts that are joined by line feeds are found again. -/
theorem linesOf_joined {lines : List String} (hne : lines ≠ []) (h : ∀ line ∈ lines, OneLine line) :
    linesOf ("\n".intercalate lines) = lines := by
  induction lines with
  | nil => exact absurd rfl hne
  | cons line rest ih =>
    rw [List.forall_mem_cons] at h
    by_cases hrest : rest = []
    · subst hrest
      rw [String.intercalate_singleton, linesOf_of_oneLine h.1]
    · rw [linesOf_joined_cons h.1 hrest, ih hrest h.2]

/-- One-line texts that are joined by line feeds come first, whatever is joined to them. -/
theorem linesOf_joined_append {lines : List String} (h : ∀ line ∈ lines, OneLine line)
    {rest : List String}
    (hrest : rest ≠ []) :
    linesOf ("\n".intercalate (lines ++ rest)) = lines ++ linesOf ("\n".intercalate rest) := by
  induction lines with
  | nil => rfl
  | cons line lines ih =>
    rw [List.forall_mem_cons] at h
    have hne : lines ++ rest ≠ [] := List.append_ne_nil_of_right_ne_nil _ hrest
    rw [List.cons_append, linesOf_joined_cons h.1 hne, ih h.2, List.cons_append]

end Text

end CardCensus
