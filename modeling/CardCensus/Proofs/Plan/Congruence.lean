import CardCensus.Proofs.Plan.Order
import CardCensus.Proofs.Query.Folding

/-!
# Terms that leave a plan as it is

A field does to a plan what its tests say: it adds them, and it joins what they read. So a query
whose terms are changed in a way that keeps the tests of each field has the same plan, and so has
one that lacks unknown fields.

Results:
* `withField_congr`: terms with the same tests do the same to a plan.
* `withFields_map`: the terms of every field can be changed together.
* `ofQuery_eq_withFields_known`: a plan is made of the known fields.
-/

namespace CardCensus.Plan

/-! ## One field -/

variable {field : Field} {terms others : List String}

theorem fieldRelation?_congr (h : fieldTests field terms = fieldTests field others) :
    fieldRelation? field terms = fieldRelation? field others := by
  cases field with
  | color | colorIdentity => rw [fieldRelation?, h, fieldRelation?]
  | name | set | type | supertype | rarity | subtype | unknown _ => rfl

/-- **Step.** Terms with the same tests do the same to a plan. -/
theorem withField_congr (h : fieldTests field terms = fieldTests field others) (plan : Plan) :
    plan.withField field terms = plan.withField field others := by
  have hjoins : (plan.withField field terms).joins = (plan.withField field others).joins := by
    rw [joins_withField, joins_withField, fieldRelation?_congr h]
  have hpredicates : (plan.withField field terms).predicates =
      (plan.withField field others).predicates := by
    rw [predicates_withField, predicates_withField, h]
  exact congrArg₂ Plan.mk hjoins hpredicates

/-! ## All fields -/

/-- **Run.** The terms of every field can be changed together, as long as each field keeps its
    tests. -/
theorem withFields_map {change : Field → List String → List String}
    {fields : List (Field × List String)}
    (h : ∀ entry ∈ fields, fieldTests entry.1 (change entry.1 entry.2) = fieldTests entry.1 entry.2)
    (plan : Plan) :
    plan.withFields (fields.map fun entry => (entry.1, change entry.1 entry.2)) =
      plan.withFields fields := by
  induction fields generalizing plan with
  | nil => rfl
  | cons entry rest ih =>
    rw [List.forall_mem_cons] at h
    show (plan.withField entry.1 (change entry.1 entry.2)).withFields _ =
      (plan.withField entry.1 entry.2).withFields rest
    rw [withField_congr h.1, ih h.2]

/-- A plan is made of the known fields. -/
theorem withFields_filter_isKnown (plan : Plan) (fields : List (Field × List String)) :
    plan.withFields (fields.filter fun entry => entry.1.isKnown) = plan.withFields fields := by
  induction fields generalizing plan with
  | nil => rfl
  | cons entry rest ih =>
    obtain ⟨field, terms⟩ := entry
    have hcons : plan.withFields ((field, terms) :: rest) =
        (plan.withField field terms).withFields rest := rfl
    cases hknown : field.isKnown with
    | true =>
      rw [List.filter_cons_of_pos (by exact hknown), hcons, ← ih]
      rfl
    | false =>
      have hnot : ¬ field.isKnown = true := Bool.eq_false_iff.mp hknown
      have hsame : plan.withField field terms = plan := by
        cases field with
        | unknown word => rfl
        | _ => cases hknown
      rw [List.filter_cons_of_neg (by exact hnot), hcons, hsame, ih]

theorem ofQuery_eq_withFields_known (query : Query) : ofQuery query = withFields {} query.known :=
  (withFields_filter_isKnown {} query.fields).symm

end CardCensus.Plan
