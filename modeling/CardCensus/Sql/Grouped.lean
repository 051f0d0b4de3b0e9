import CardCensus.Plan
import CardCensus.Query
import CardCensus.Sql.Statement
import CardCensus.StoreError
import CardCensus.Text.Pattern

/-!
# The statements of a plan

The grouped relation keeps one row for each name among the cards that a plan retains; an aggregate
is a statement over it. The terms of the query stand in the parameters only, each behind a question
mark.

Results:
* `aggregateStatementOver_of_not_isIdentifier`: a column that is no identifier never reaches a
  statement.
-/

namespace CardCensus.Sql

/-- The word before a negated test. -/
def negation (negated : Bool) : String :=
  if negated then "NOT " else ""

/-- The test of one colour flag. -/
def flagTest (table : String) : String × Bool → String
  | (column, on) => table ++ "." ++ column ++ " = " ++ (if on then "1" else "0")

mutual

/-- A predicate as a condition (`predicate_sql`). -/
def condition : Predicate → String
  | .tagged tag negated =>
    "cards.id " ++ negation negated ++ "IN (SELECT id FROM " ++ tag.view ++ ")"
  | .oneOf column values negated =>
    column.display ++ " COLLATE NOCASE " ++ negation negated ++ "IN (" ++
      join ", " (List.replicate values.length "?") ++ ")"
  | .contains column _ negated => column.display ++ " " ++ negation negated ++ "LIKE ? ESCAPE '\\'"
  | .colorExact relation mask negated =>
    negation negated ++ "(" ++ join " AND " (mask.flags.map (flagTest relation.table)) ++ ")"
  | .anyOf predicates => "(" ++ join " OR " (conditions predicates) ++ ")"

/-- Predicates as conditions. -/
def conditions : List Predicate → List String
  | [] => []
  | predicate :: rest => condition predicate :: conditions rest

end

mutual

/-- The texts that a predicate binds, in the order of its question marks. -/
def boundTexts : Predicate → List String
  | .tagged _ _ | .colorExact _ _ _ => []
  | .oneOf _ values _ => values
  | .contains _ needle _ => [String.ofList (Text.containing needle.toList)]
  | .anyOf predicates => boundTextsAll predicates

/-- The texts that predicates bind, in order. -/
def boundTextsAll : List Predicate → List String
  | [] => []
  | predicate :: rest => boundTexts predicate ++ boundTextsAll rest

end

/-- The parameters of a plan. -/
def parameters (plan : Plan) : List Value :=
  (boundTextsAll plan.predicates).map Value.text

/-- The join of one relation to the base, on a line of its own. -/
def joinLine (base relation : Relation) : String :=
  "\nJOIN " ++ relation.table ++ " ON " ++ base.table ++ ".id = " ++ relation.table ++ ".id"

/-- The joins of a plan to the base. -/
def joinLines (base : Relation) (plan : Plan) : String :=
  String.join (plan.joins.map (joinLine base))

/-- The test that a row of the base has a picture. -/
def pictureCondition (base : Relation) : String :=
  base.table ++ ".multiverse_id != 0"

/-- What the grouped relation selects, and from where. -/
def groupedStart (base : Relation) (plan : Plan) : String :=
  "SELECT " ++ base.table ++ ".*, min(" ++ base.table ++ ".rowid) AS printing\nFROM " ++
    base.table ++
    joinLines base plan

/-- How the grouped relation is grouped. -/
def groupedEnd (base : Relation) : String :=
  "\nGROUP BY " ++ base.table ++ ".name"

/-- The text of the grouped relation over a base: the retained rows, one for each name. -/
def groupedTextOver (base : Relation) (plan : Plan) : String :=
  groupedStart base plan ++ "\nWHERE " ++
    join "\n  AND " (conditions plan.predicates ++ [pictureCondition base]) ++ groupedEnd base

/-- The grouped relation over a base as a statement. -/
def groupedStatementOver (base : Relation) (plan : Plan) : Statement :=
  ⟨groupedTextOver base plan, parameters plan⟩

/-- The grouped relation of the retained cards (`grouped_relation`). -/
def groupedStatement (plan : Plan) : Statement :=
  groupedStatementOver Plan.base plan

/-- The grouped relation as it is logged. -/
def groupedDisplay (plan : Plan) : String :=
  groupedTextOver Plan.base plan ++ "\n-- " ++ toString plan.joinCount ++ " JOINs, " ++
    toString (parameters plan).length ++ " paramètres\n"

/-- The character can start a column name. -/
def isIdentifierStart (c : Char) : Bool :=
  c.isAlpha || c == '_'

/-- The character can follow in a column name. -/
def isIdentifierPart (c : Char) : Bool :=
  c.isAlphanum || c == '_'

/-- The text is a column name: ASCII letters, digits and underscores, no digit first
    (`is_identifier`). -/
def isIdentifier (s : String) : Bool :=
  match s.toList with
  | [] => false
  | c :: rest => isIdentifierStart c && rest.all isIdentifierPart

/-- What an aggregate selects from the grouped relation. -/
def aggregateStart (verb : Verb) (column : String) : String :=
  match verb with
  | .count => "SELECT count(" ++ column ++ ")"
  | .sum | .average =>
    "SELECT " ++ verb.function ++ "(" ++ column ++ "), count(" ++ column ++
      ") - count(CASE WHEN typeof(" ++ column ++ ") IN ('integer', 'real') THEN 1 END)"
  | .minimum | .maximum => "SELECT " ++ column ++ ", name, multiverse_id"

/-- Which row an aggregate is after: the first in the order of the verb, where there is an order. -/
def aggregateEnd (verb : Verb) (column : String) : String :=
  match verb with
  | .count | .sum | .average => ""
  | .minimum | .maximum =>
    "\nWHERE " ++ column ++ " IS NOT NULL\nORDER BY " ++ column ++
      (if verb = .minimum then " ASC" else " DESC") ++ ", name ASC\nLIMIT 1"

/-- The text of an aggregate over the grouped relation. -/
def aggregateTextOver (base : Relation) (plan : Plan) (verb : Verb) (column : String) : String :=
  aggregateStart verb column ++ "\nFROM (\n" ++ groupedTextOver base plan ++ "\n) AS grouped" ++
    aggregateEnd verb column

/-- The statement of a request over the grouped relation of a base. -/
def aggregateStatementOver (base : Relation) (plan : Plan) (request : Request) :
    Except StoreError Statement :=
  if isIdentifier request.column then
    .ok ⟨aggregateTextOver base plan request.verb request.column, parameters plan⟩
  else .error (.invalidColumn request.column)

/-- The statement of a request over the retained cards (`SqlPlanner.aggregate`). -/
def aggregateStatement (plan : Plan) (request : Request) : Except StoreError Statement :=
  aggregateStatementOver Plan.base plan request

theorem aggregateStatementOver_of_not_isIdentifier {base : Relation} {plan : Plan}
    {request : Request}
    (h : isIdentifier request.column = false) :
    aggregateStatementOver base plan request = .error (.invalidColumn request.column) := by
  simp [aggregateStatementOver, h]

end CardCensus.Sql
