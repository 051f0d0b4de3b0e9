import CardCensus.Category
import CardCensus.Color

/-!
# Plans

A `Plan` says which relations are joined to the cards and which predicates a card has to satisfy.
Each relation is joined once, in the order of first need.

Results:
* `Plan.mem_joins_join`: after a join the relation is available.
* `Plan.join_joins_nodup`: a relation is joined at most once.
-/

namespace CardCensus

/-- A table that a plan reads. -/
inductive Relation where
  | cards
  | setMembership
  | color
  | colorIdentity
  deriving Repr, DecidableEq, Inhabited

/-- The name of the table. -/
def Relation.table : Relation → String
  | .cards => "cards"
  | .setMembership => "set_card"
  | .color => "card_color"
  | .colorIdentity => "card_colorID"

/-- A text column that a predicate tests. -/
inductive Column where
  | cardName
  | typeLine
  | setCode
  deriving Repr, DecidableEq, Inhabited

namespace Column

/-- The relation of the column. -/
def relation : Column → Relation
  | cardName | typeLine => .cards
  | setCode => .setMembership

/-- The name of the column in its relation. -/
def name : Column → String
  | cardName => "name"
  | typeLine => "type"
  | setCode => "set_code"

/-- The column with its relation. -/
def display (column : Column) : String :=
  column.relation.table ++ "." ++ column.name

end Column

/-- A test of one joined row. -/
inductive Predicate where
  /-- The card carries the tag. -/
  | tagged (tag : Tag) (negated : Bool)
  /-- The column is one of the values, ignoring the case of ASCII letters. -/
  | oneOf (column : Column) (values : List String) (negated : Bool)
  /-- The column holds the needle, ignoring the case of ASCII letters. -/
  | contains (column : Column) (needle : String) (negated : Bool)
  /-- The colours in the relation are exactly the mask. -/
  | colorExact (relation : Relation) (mask : ColorMask) (negated : Bool)
  /-- One of the predicates holds. -/
  | anyOf (predicates : List Predicate)
  deriving Repr, Inhabited

namespace Predicate

/-- The disjunction of the predicates: none of no predicate, and a single one stands for itself
    (`any_of`). -/
def disjunction : List Predicate → Option Predicate
  | [] => none
  | [predicate] => some predicate
  | predicates => some (anyOf predicates)

mutual

/-- The single tests of which one has to be passed: those of a disjunction, else the test itself. -/
def alternatives : Predicate → List Predicate
  | anyOf predicates => alternativesOfAll predicates
  | predicate => [predicate]

/-- The single tests of several predicates. -/
def alternativesOfAll : List Predicate → List Predicate
  | [] => []
  | predicate :: rest => alternatives predicate ++ alternativesOfAll rest

end

theorem mem_alternativesOfAll {predicates : List Predicate} {test : Predicate} :
    test ∈ alternativesOfAll predicates ↔
      ∃ predicate ∈ predicates, test ∈ predicate.alternatives := by
  induction predicates with
  | nil => simp [alternativesOfAll]
  | cons predicate rest ih => simp [alternativesOfAll, ih]

/-- The predicate asks for a tag or bars one. -/
def isTagTest : Predicate → Bool
  | tagged _ _ => true
  | _ => false

/-- The needle that the predicate looks for. -/
def needle? : Predicate → Option String
  | contains _ needle _ => some needle
  | _ => none

/-- The relation that the predicate looks at; all alternatives of a plan's disjunctions look
    at one. -/
def relation (predicate : Predicate) : Relation :=
  match predicate.alternatives.head? with
  | some (oneOf column _ _) | some (contains column _ _) => column.relation
  | some (colorExact relation _ _) => relation
  | _ => .cards

end Predicate

/-- Which relations are joined to the cards and which tests a row has to pass. -/
structure Plan where
  joins : List Relation := []
  predicates : List Predicate := []
  deriving Repr, Inhabited

namespace Plan

/-- The relation that all others are joined to. -/
def base : Relation := .cards

/-- The plan with a relation joined, unless it is there already. -/
def join (plan : Plan) (relation : Relation) : Plan :=
  if relation = base ∨ relation ∈ plan.joins then plan
  else { plan with joins := plan.joins ++ [relation] }

/-- The plan with a further test. -/
def filter (plan : Plan) (predicate : Predicate) : Plan :=
  { plan with predicates := plan.predicates ++ [predicate] }

/-- The plan with several further tests. -/
def filterAll (plan : Plan) (predicates : List Predicate) : Plan :=
  predicates.foldl filter plan

/-- How many relations are joined to the cards (`join_count`). -/
def joinCount (plan : Plan) : Nat :=
  plan.joins.length

/-- The single tests of a plan. -/
def singleTests (plan : Plan) : List Predicate :=
  Predicate.alternativesOfAll plan.predicates

/-- The needles that a plan looks for. -/
def needles (plan : Plan) : List String :=
  plan.singleTests.filterMap Predicate.needle?

theorem mem_joins_join (plan : Plan) (relation : Relation) :
    relation = base ∨ relation ∈ (plan.join relation).joins := by
  unfold join
  split
  · assumption
  · simp

theorem join_joins_nodup {plan : Plan} (h : plan.joins.Nodup) (relation : Relation) :
    (plan.join relation).joins.Nodup := by
  unfold join
  split
  · exact h
  · rename_i hn
    simp only [not_or] at hn
    rw [List.nodup_append]
    refine ⟨h, by simp, ?_⟩
    intro a ha b hb
    rw [List.mem_singleton] at hb
    rintro rfl
    exact hn.2 (hb ▸ ha)

theorem filterAll_eq (plan : Plan) (predicates : List Predicate) :
    plan.filterAll predicates = { plan with predicates := plan.predicates ++ predicates } := by
  induction predicates generalizing plan with
  | nil => simp [filterAll]
  | cons predicate rest ih =>
    simp only [filterAll, List.foldl_cons] at ih ⊢
    rw [ih]
    simp [filter]

end Plan

end CardCensus
