/-!
# Negated terms

A term that starts with the mark `!` asks for the opposite of the rest of it.

Results:
* `negated?_eq_some_iff`: a term negates exactly the term that it is the negation of.
* `split_append`: splitting works term by term.
* `length_split`: every term lands on exactly one side.
-/

namespace CardCensus.Negation

/-- The mark before a negated term. -/
def mark : Char := '!'

/-- What a negated term negates. -/
def negated? (term : String) : Option String :=
  match term.toList with
  | [] => none
  | c :: rest => if c = mark then some (String.ofList rest) else none

/-- The term that asks for the opposite. -/
def negation (term : String) : String :=
  String.ofList (mark :: term.toList)

@[simp] theorem negated?_negation (term : String) : negated? (negation term) = some term := by
  rw [negated?, negation, String.toList_ofList]
  simp

theorem negated?_eq_some_iff {term rest : String} :
    negated? term = some rest ↔ term = negation rest := by
  constructor
  · intro h
    rw [negated?] at h
    split at h
    · cases h
    · rename_i c cs hterm
      split at h
      · rename_i hmark
        rw [← Option.some.inj h, negation, String.toList_ofList, ← hmark, ← hterm,
          String.ofList_toList]
      · cases h
  · rintro rfl
    exact negated?_negation rest

theorem negated?_eq_none_iff {term : String} : negated? term = none ↔
    term.toList.head? ≠ some mark := by
  rw [negated?]
  cases term.toList with
  | nil => simp
  | cons c rest => by_cases h : c = mark <;> simp [h]

/-- The terms without the mark, in order. -/
def positives (terms : List String) : List String :=
  terms.filter fun term => (negated? term).isNone

/-- What the terms with the mark negate, in order. -/
def negatives (terms : List String) : List String :=
  terms.filterMap negated?

/-- The terms without the mark and what the others negate (`split_negatives`). -/
def split (terms : List String) : List String × List String :=
  (positives terms, negatives terms)

theorem split_append (s t : List String) :
    split (s ++ t) = ((split s).1 ++ (split t).1, (split s).2 ++ (split t).2) := by
  simp [split, positives, negatives]

theorem length_split (terms : List String) :
    (positives terms).length + (negatives terms).length = terms.length := by
  induction terms with
  | nil => rfl
  | cons term rest ih =>
    cases h : negated? term with
    | none => simp_all [positives, negatives]; omega
    | some s => simp_all [positives, negatives]; omega

end CardCensus.Negation
