import CardCensus.Least
import CardCensus.Plan
import CardCensus.Store.Tables
import CardCensus.Text.Fold
import CardCensus.Text.Pattern

/-!
# Which cards a plan retains

The cards are joined with the relations of the plan row by row, placeholders are left out, and the
rows that pass every test are retained. Of the retained rows of one name the first stands for the
name.

Results:
* `mem_retained_iff`: a retained row is a joined row of no placeholder that passes every test.
* `multiverseId_ne_zero_of_mem_retained`: no placeholder is retained.
-/

namespace CardCensus.Store

/-- A card with its row number and the rows joined to it. -/
structure JoinedRow where
  number : Nat
  card : CardRow
  setCode : Option String := none
  color : Option ColorRow := none
  identity : Option ColorRow := none
  deriving DecidableEq, Inhabited

namespace Tables

/-- A row with each row of a relation that belongs to the same card. -/
def extend (tables : Tables) (row : JoinedRow) : Relation → List JoinedRow
  | .cards => [row]
  | .setMembership => (tables.memberships.entries.filter (·.id == row.card.id)).map
      fun membership => { row with setCode := some membership.setCode }
  | .color => (tables.colors.entries.filter (·.id == row.card.id)).map
      fun color => { row with color := some color }
  | .colorIdentity => (tables.identities.entries.filter (·.id == row.card.id)).map
      fun identity => { row with identity := some identity }

/-- The rows with each row of a relation. -/
def joinWith (tables : Tables) (rows : List JoinedRow) (relation : Relation) : List JoinedRow :=
  rows.flatMap fun row => tables.extend row relation

/-- The cards, with nothing joined to them yet. -/
def baseRows (tables : Tables) : List JoinedRow :=
  tables.cards.rows.map fun (number, card) => { number, card }

/-- The cards joined with the relations of a plan. -/
def joined (tables : Tables) (plan : Plan) : List JoinedRow :=
  plan.joins.foldl tables.joinWith tables.baseRows

end Tables

/-- The text of a row in a column, if the row has the column. -/
def JoinedRow.text? (row : JoinedRow) : Column → Option String
  | .cardName => some row.card.name
  | .typeLine => some row.card.typeLine
  | .setCode => row.setCode

/-- The flags of a row in a relation, if the row has the relation. -/
def JoinedRow.flags? (row : JoinedRow) : Relation → Option (List Int)
  | .color => row.color.map ColorRow.flags
  | .colorIdentity => row.identity.map ColorRow.flags
  | .cards | .setMembership => none

/-- The flags of exactly the given mask. -/
def maskFlags (mask : ColorMask) : List Int :=
  mask.flags.map fun (_, on) => flag on

/-- The text matches the pattern of the texts that hold the needle. Both end at a character with
    number zero. -/
def holdsNeedle (text needle : String) : Bool :=
  Text.matchesPattern (Text.untilNul (Text.containing needle.toList)) (Text.untilNul text.toList)

mutual

/-- The row passes the test. A row passes no test of a relation that it does not have. -/
def passes (tables : Tables) (row : JoinedRow) : Predicate → Bool
  | .tagged tag negated => (tables.view tag).contains row.card.id != negated
  | .oneOf column values negated =>
    match row.text? column with
    | some text => values.any (Text.collatesAs text) != negated
    | none => false
  | .contains column needle negated =>
    match row.text? column with
    | some text => holdsNeedle (Text.asRead text) (Text.asRead needle) != negated
    | none => false
  | .colorExact relation mask negated =>
    match row.flags? relation with
    | some flags => (flags == maskFlags mask) != negated
    | none => false
  | .anyOf predicates => passesAny tables row predicates

/-- The row passes one of the tests. -/
def passesAny (tables : Tables) (row : JoinedRow) : List Predicate → Bool
  | [] => false
  | predicate :: rest => passes tables row predicate || passesAny tables row rest

end

namespace Tables

/-- The joined rows that a plan retains. -/
def retained (tables : Tables) (plan : Plan) : List JoinedRow :=
  (tables.joined plan).filter fun row =>
    row.card.multiverseId != 0 && plan.predicates.all (passes tables row)

theorem mem_retained_iff {tables : Tables} {plan : Plan} {row : JoinedRow} :
    row ∈ tables.retained plan ↔ row ∈ tables.joined plan ∧ row.card.multiverseId ≠ 0 ∧
      ∀ predicate ∈ plan.predicates, passes tables row predicate = true := by
  simp [retained]

theorem multiverseId_ne_zero_of_mem_retained {tables : Tables} {plan : Plan} {row : JoinedRow}
    (h : row ∈ tables.retained plan) : row.card.multiverseId ≠ 0 :=
  (mem_retained_iff.mp h).2.1

end Tables

/-- The row that stands for a name: the card, and the number of the row. -/
structure GroupedRow where
  card : CardRow
  printing : Nat
  deriving DecidableEq, Inhabited

/-- The texts without repetition in ascending order of their bytes. -/
def sortedDistinct (texts : List String) : List String :=
  texts.eraseDups.mergeSort fun a b => decide (a ≤ b)

/-- The first row has the lesser row number. -/
def JoinedRow.before (a b : JoinedRow) : Bool :=
  a.number < b.number

/-- Of the rows with a name, the one with the least row number. -/
def representative? (rows : List JoinedRow) (name : String) : Option GroupedRow :=
  (least? JoinedRow.before (rows.filter (·.card.name == name))).map fun row =>
    ⟨row.card, row.number⟩

/-- Of the rows of each name the one that stands for it, in ascending order of names. -/
def groupRows (rows : List JoinedRow) : List GroupedRow :=
  (sortedDistinct (rows.map (·.card.name))).filterMap (representative? rows)

/-- The retained rows of a plan, one for each name. -/
def Tables.grouped (tables : Tables) (plan : Plan) : List GroupedRow :=
  groupRows (tables.retained plan)

end CardCensus.Store
