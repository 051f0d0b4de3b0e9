import CardCensus.Sql.Limits
import CardCensus.Store.Selection

/-!
# Patterns that rows come upon

The tests of a plan could be made in any order if none of them failed. But a pattern that is too
long fails for the first row that is tested against it, so it matters which rows are tested, and
in which order. The library that keeps the tables joins some relations before it tests the cards
and puts tests that are cheap in front; `Plan.leading` and `Plan.testOrder` are what it was seen
to do.

Results:
* `meetsLongPattern_eq_false`: needles that are short enough are no danger.
* `select_of_short`: then the rows are those that the plan retains.
-/

namespace CardCensus

namespace Predicate

/-- The predicate asks for a tag. -/
def asksForTag : Predicate → Bool
  | tagged _ negated => !negated
  | _ => false

/-- The predicate tests nothing but the id of a card. -/
def testsId (predicate : Predicate) : Bool :=
  predicate.alternatives.all isTagTest

/-- The predicate tests the name of a card. -/
def testsName : Predicate → Bool
  | oneOf .cardName _ _ => true
  | _ => false

/-- How many tags the predicate gives a choice of. -/
def tagChoice? : Predicate → Option Nat
  | anyOf predicates => if predicates.all asksForTag then some predicates.length else none
  | _ => none

/-- The predicate is a choice, or a choice of names. -/
def isChoice : Predicate → Bool
  | anyOf _ => true
  | oneOf .cardName _ negated => !negated
  | _ => false

end Predicate

namespace Plan

/-- The plan asks for a tag outside of a choice. -/
def asksForTag (plan : Plan) : Bool :=
  plan.predicates.any Predicate.asksForTag

/-- The tests of the cards themselves. -/
def cardTests (plan : Plan) : List Predicate :=
  plan.predicates.filter fun predicate => predicate.relation = .cards

/-- The predicate asks for colours that another one bars. -/
def isBarred (plan : Plan) : Predicate → Bool
  | .colorExact relation mask false => plan.predicates.any fun
    | .colorExact other barred true => other = relation && barred = mask
    | _ => false
  | _ => false

/-- No row is tested: the outer test, or two tests of the plan, cannot be passed. -/
def isIdle (plan : Plan) (outer : Sql.OuterTest) : Bool :=
  outer = .never || plan.predicates.any plan.isBarred

/-- The relations that are joined before the cards are tested. -/
def leading (plan : Plan) (outer : Sql.OuterTest) : List Relation :=
  let tests := plan.cardTests.length + if outer = .name then 1 else 0
  if plan.asksForTag then
    if plan.joins = [.setMembership] && tests ≤ 3 then plan.joins
    else plan.joins.filter (· ≠ .setMembership)
  else []

/-- The tests with those in front that are chosen. -/
def inFront (chosen : Predicate → Bool) (tests : List Predicate) : List Predicate :=
  tests.filter chosen ++ tests.filter (!chosen ·)

/-- The tests of the cards in the order in which they are made. Where tags are given a choice of,
    the smallest choice leads. -/
def testOrder (plan : Plan) : List Predicate :=
  let tests := plan.cardTests
  if plan.asksForTag then inFront Predicate.testsId tests
  else match (tests.filterMap Predicate.tagChoice?).min? with
    | none => inFront Predicate.testsName tests
    | some fewest =>
      let isSmallest (test : Predicate) : Bool := test.tagChoice? = some fewest
      let cheap (test : Predicate) : Bool := test.isChoice && !test.testsId
      (tests.find? isSmallest).toList ++ inFront cheap (tests.eraseP isSmallest)

theorem mem_inFront {chosen : Predicate → Bool} {tests : List Predicate} {test : Predicate} :
    test ∈ inFront chosen tests ↔ test ∈ tests := by
  rw [inFront, List.mem_append, List.mem_filter, List.mem_filter]
  cases chosen test <;> simp

/-- Nothing but tests of the plan is made. -/
theorem mem_of_mem_testOrder {plan : Plan} {test : Predicate} (h : test ∈ plan.testOrder) :
    test ∈ plan.predicates := by
  have htests : test ∈ plan.cardTests := by
    unfold testOrder at h
    dsimp only at h
    split at h
    · exact mem_inFront.mp h
    · split at h
      · exact mem_inFront.mp h
      · rcases List.mem_append.mp h with hfirst | hrest
        · exact List.mem_of_find?_eq_some (Option.mem_toList.mp hfirst)
        · exact List.mem_of_mem_eraseP (mem_inFront.mp hrest)
  exact (List.mem_filter.mp htests).1

end Plan

namespace Store

mutual

/-- The test comes upon a pattern that is too long. -/
def meets (tables : Tables) (row : JoinedRow) : Predicate → Bool
  | .contains _ needle _ => Sql.isTooLong needle
  | .anyOf predicates => meetsAny tables row predicates
  | .tagged .. | .oneOf .. | .colorExact .. => false

/-- Tests that are made until one is passed come upon such a pattern. -/
def meetsAny (tables : Tables) (row : JoinedRow) : List Predicate → Bool
  | [] => false
  | predicate :: rest =>
    meets tables row predicate || !passes tables row predicate && meetsAny tables row rest

end

/-- Tests that are made until one is failed come upon such a pattern. -/
def meetsAll (tables : Tables) (row : JoinedRow) : List Predicate → Bool
  | [] => false
  | predicate :: rest =>
    meets tables row predicate || passes tables row predicate && meetsAll tables row rest

namespace Tables

/-- The rows of the relations that are joined before the cards are tested. -/
def leadingRows (tables : Tables) (plan : Plan) (outer : Sql.OuterTest) : List JoinedRow :=
  (plan.leading outer).foldl tables.joinWith tables.baseRows

/-- A row comes upon a pattern that is too long. -/
def meetsLongPattern (tables : Tables) (plan : Plan) (outer : Sql.OuterTest) : Bool :=
  let early := plan.predicates.filter fun test => test.relation ∈ plan.leading outer
  !plan.isIdle outer && (tables.leadingRows plan outer).any fun row =>
    meetsAll tables row (early ++ plan.testOrder)

/-- The rows that a plan retains, unless a row comes upon a pattern that is too long. -/
def select (tables : Tables) (plan : Plan) (outer : Sql.OuterTest) :
    Except Limit (List JoinedRow) :=
  if tables.meetsLongPattern plan outer then .error .pattern
  else .ok (tables.retained plan)

end Tables

/-! ## Short needles -/

variable {tables : Tables}

mutual

/-- A test whose needles are short enough is no danger. -/
theorem meets_eq_false (row : JoinedRow) : ∀ predicate : Predicate,
    (∀ test ∈ predicate.alternatives, ∀ needle ∈ test.needle?, Sql.isTooLong needle = false) →
    meets tables row predicate = false
  | .tagged .., _ | .oneOf .., _ | .colorExact .., _ => by rw [meets]
  | .contains column needle negated, h => by
    rw [meets]
    exact h (.contains column needle negated) (List.mem_singleton_self _) needle rfl
  | .anyOf predicates, h => by
    rw [meets]
    rw [Predicate.alternatives] at h
    exact meetsAny_eq_false row predicates h

theorem meetsAny_eq_false (row : JoinedRow) : ∀ predicates : List Predicate,
    (∀ test ∈ Predicate.alternativesOfAll predicates, ∀ needle ∈ test.needle?,
      Sql.isTooLong needle = false) →
    meetsAny tables row predicates = false
  | [], _ => by rw [meetsAny]
  | predicate :: rest, h => by
    rw [Predicate.alternativesOfAll] at h
    rw [meetsAny, meets_eq_false row predicate fun test htest =>
      h test (List.mem_append_left _ htest),
      meetsAny_eq_false row rest fun test htest => h test (List.mem_append_right _ htest),
      Bool.and_false, Bool.or_false]

end

theorem meetsAll_eq_false {row : JoinedRow} {predicates : List Predicate}
    (h : ∀ predicate ∈ predicates, meets tables row predicate = false) :
    meetsAll tables row predicates = false := by
  induction predicates with
  | nil => rw [meetsAll]
  | cons predicate rest ih =>
    rw [List.forall_mem_cons] at h
    rw [meetsAll, h.1, ih h.2, Bool.and_false, Bool.or_false]

/-- Where no needle is too long, no row comes upon a pattern that is. -/
theorem meetsLongPattern_eq_false {plan : Plan}
    (h : ∀ needle ∈ plan.needles, Sql.isTooLong needle = false)
    (tables : Tables) (outer : Sql.OuterTest) : tables.meetsLongPattern plan outer = false := by
  have hmeets : ∀ row, ∀ predicate ∈ plan.predicates, meets tables row predicate = false := by
    intro row predicate hpredicate
    apply meets_eq_false
    intro test htest needle hneedle
    exact h needle (List.mem_filterMap.mpr ⟨test, Predicate.mem_alternativesOfAll.mpr
      ⟨predicate, hpredicate, htest⟩, hneedle⟩)
  rw [Tables.meetsLongPattern, Bool.and_eq_false_iff]
  refine Or.inr (List.any_eq_false.mpr fun row _ => ?_)
  rw [Bool.not_eq_true]
  apply meetsAll_eq_false
  intro predicate hpredicate
  rcases List.mem_append.mp hpredicate with hearly | hlate
  · exact hmeets row predicate (List.mem_filter.mp hearly).1
  · exact hmeets row predicate (Plan.mem_of_mem_testOrder hlate)

theorem select_of_short {plan : Plan} (h : ∀ needle ∈ plan.needles, Sql.isTooLong needle = false)
    (tables : Tables) (outer : Sql.OuterTest) :
    tables.select plan outer = .ok (tables.retained plan) := by
  rw [Tables.select, meetsLongPattern_eq_false h]
  rfl

end Store

end CardCensus
