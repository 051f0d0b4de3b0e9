import CardCensus.Negation

/-!
# Splitting a list of terms and putting it together again

The plain terms of a list and its negated ones, with the mark back before each of them, interleave
to the list: nothing is lost, nothing is added and each side keeps its order. As no plain term
starts with the mark, the two sides can be told apart again, so a list has one splitting only,
whatever its terms are made of.

Results:
* `isParting_split`: what splitting gives interleaves to the list.
* `IsParting.split_eq`: nothing else does.
* `split_loses_nothing`: both, and the splitting of a longer list.
-/

namespace CardCensus.Negation

variable {terms plain negated : List String}

/-! ## Interleavings -/

/-- The third list is made of the elements of the other two, each of these in its order. -/
inductive Interleaves {α : Type} : List α → List α → List α → Prop
  | nil : Interleaves [] [] []
  | left {x : α} {a b s : List α} (h : Interleaves a b s) : Interleaves (x :: a) b (x :: s)
  | right {x : α} {a b s : List α} (h : Interleaves a b s) : Interleaves a (x :: b) (x :: s)

/-- The terms are some terms without the mark and the negations of others, each of them in order. -/
structure IsParting (terms plain negated : List String) : Prop where
  interleaves : Interleaves plain (negated.map negation) terms
  unmarked : ∀ term ∈ plain, term.toList.head? ≠ some mark

/-! ## One step -/

theorem split_cons_of_unmarked {term : String} (h : term.toList.head? ≠ some mark)
    (rest : List String) :
    split (term :: rest) = (term :: (split rest).1, (split rest).2) := by
  have hnone := negated?_eq_none_iff.mpr h
  rw [split, positives, negatives, List.filter_cons_of_pos (by simp [hnone]),
    List.filterMap_cons_none hnone]
  rfl

theorem split_cons_negation (term : String) (rest : List String) :
    split (negation term :: rest) = ((split rest).1, term :: (split rest).2) := by
  have hsome := negated?_negation term
  rw [split, positives, negatives, List.filter_cons_of_neg (by simp),
    List.filterMap_cons_some hsome]
  rfl

theorem IsParting.cons_unmarked {term : String} (hterm : term.toList.head? ≠ some mark)
    (h : IsParting terms plain negated) : IsParting (term :: terms) (term :: plain) negated :=
  ⟨h.interleaves.left, List.forall_mem_cons.mpr ⟨hterm, h.unmarked⟩⟩

theorem IsParting.cons_negation (term : String) (h : IsParting terms plain negated) :
    IsParting (negation term :: terms) plain (term :: negated) :=
  ⟨h.interleaves.right, h.unmarked⟩

/-! ## All terms -/

/-- What splitting gives interleaves to the list. -/
theorem isParting_split (terms : List String) :
    IsParting terms (split terms).1 (split terms).2 := by
  induction terms with
  | nil => exact ⟨.nil, fun _ h => absurd h List.not_mem_nil⟩
  | cons term rest ih =>
    cases hterm : negated? term with
    | none =>
      rw [negated?_eq_none_iff] at hterm
      rw [split_cons_of_unmarked hterm]
      exact ih.cons_unmarked hterm
    | some content =>
      rw [negated?_eq_some_iff.mp hterm, split_cons_negation]
      exact ih.cons_negation content

/-- Nothing else does: the mark tells at every term which side it is from. -/
theorem IsParting.split_eq (h : IsParting terms plain negated) :
    split terms = (plain, negated) := by
  obtain ⟨hinterleaves, hunmarked⟩ := h
  generalize hmarked : negated.map negation = marked at hinterleaves
  induction hinterleaves generalizing negated with
  | nil =>
    rw [List.map_eq_nil_iff.mp hmarked]
    rfl
  | left _ ih =>
    rw [List.forall_mem_cons] at hunmarked
    rw [split_cons_of_unmarked hunmarked.1, ih hunmarked.2 hmarked]
  | right _ ih =>
    obtain ⟨content, others, rfl, rfl, hothers⟩ := List.map_eq_cons_iff.mp hmarked
    rw [split_cons_negation, ih hunmarked hothers]

/-- **Main theorem.** Plain and negated terms are the two sides of a splitting exactly if they
    interleave to the list, with the mark put back before the negated ones, and no plain term starts
    with the mark. So there is one such pair for every list, and a longer list is split in parts. -/
theorem split_loses_nothing (terms : List String) :
    (∀ plain negated, split terms = (plain, negated) ↔ IsParting terms plain negated) ∧
    ∀ more, split (terms ++ more) = ((split terms).1 ++ (split more).1,
      (split terms).2 ++ (split more).2) := by
  refine ⟨fun plain negated => ⟨fun hsplit => ?_, IsParting.split_eq⟩, split_append terms⟩
  have hparting := isParting_split terms
  rwa [hsplit] at hparting

/-- Bare, doubled and missing marks. -/
example : split ["", "!", "!!x", "x!", "! "] = (["", "x!"], ["", "!x", " "]) := by decide

end CardCensus.Negation
