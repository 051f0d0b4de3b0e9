import CardCensus.Query
import CardCensus.Sql.Limits
import CardCensus.Store.Selection
import CardCensus.StoreError

/-!
# What a column name stands for

The column of a request is put into a statement as it stands, so a name that is a word of the
statement language is read as that word. A `WordRole` says what such a word does where an expression
may start; every other name is a column of the grouped relation or a constant.

Results:
* `cell_of_ofWord`: the cell of a column of the cards is the cell of the row's card.
-/

namespace CardCensus.Store

/-- What a word of the statement language does where an expression may start. -/
inductive WordRole where
  /-- It cannot stand there. -/
  | reserved
  /-- It starts an expression that goes on with something else. -/
  | opening
  /-- It is the word for an order, which may follow the arguments of a call. -/
  | ordering
  /-- It is the word for all values, which needs no argument in a call. -/
  | everyValue
  /-- It is the word for distinct values. -/
  | distinctValues
  /-- It is the empty cell. -/
  | emptyCell
  deriving Repr, DecidableEq

/-- The words that cannot start an expression. -/
def reservedWords : List String :=
  ["add", "alter", "and", "as", "autoincrement", "between", "check", "collate", "commit",
    "constraint",
    "create", "default", "deferrable", "delete", "drop", "else", "escape", "except", "foreign",
      "from",
    "group", "having", "in", "index", "insert", "intersect", "into", "is", "isnull", "join",
      "limit",
    "nothing", "notnull", "on", "or", "primary", "references", "returning", "select", "set",
      "table",
    "then", "to", "transaction", "union", "unique", "update", "using", "values", "when", "where"]

/-- The words that start a longer expression. -/
def openingWords : List String :=
  ["case", "cast", "exists", "not", "raise"]

/-- The role of a word, in any case, if it has one. -/
def wordRole? (word : String) : Option WordRole :=
  let word := Text.folded word
  if reservedWords.contains word then some .reserved
  else if openingWords.contains word then some .opening
  else if word == "order" then some .ordering
  else if word == "all" then some .everyValue
  else if word == "distinct" then some .distinctValues
  else if word == "null" then some .emptyCell
  else none

/-- A column of the grouped relation. -/
inductive GroupedColumn where
  | card (column : CardColumn)
  /-- The number of the row that stands for the name. -/
  | printing
  deriving Repr, DecidableEq

/-- The columns of the grouped relation. -/
def GroupedColumn.all : List GroupedColumn :=
  CardColumn.all.map card ++ [printing]

/-- The name of the column. -/
def GroupedColumn.columnName : GroupedColumn → String
  | card column => column.columnName
  | printing => "printing"

/-- What an aggregate is taken of. -/
inductive Operand where
  | column (source : GroupedColumn)
  | constant (value : Value)
  /-- The rows themselves. -/
  | rows
  deriving DecidableEq

/-- A text of the clock. What it says never shows in an answer: a count counts it, a total refuses
    it, and an extremum shows a card. -/
def clockText : Value := .text "0000-00-00 00:00:00"

/-- The constants that are named like columns. -/
def namedConstants : List (String × Value) :=
  [("true", .integer 1), ("false", .integer 0), ("current_date", clockText),
    ("current_time", clockText), ("current_timestamp", clockText)]

/-- The column or constant with the given name, in any case. -/
def Operand.ofName (name : String) : Except TableError Operand :=
  match GroupedColumn.all.find? fun column => column.columnName == Text.folded name with
  | some found => .ok (column found)
  | none => match namedConstants.find? fun (known, _) => known == Text.folded name with
    | some (_, value) => .ok (constant value)
    | none => .error (.noSuchColumn name)

/-- The token after the column in the statement of an aggregate: a call closes, a list goes on. -/
def followingToken : Verb → String
  | .count | .sum | .average => ")"
  | .minimum | .maximum => ","

/-- What a word with a role stands for in an aggregate. -/
def Operand.ofRole (verb : Verb) (word : String) : WordRole → Except TableError Operand
  | .reserved => .error (.syntaxErrorNear word)
  | .opening => .error (.syntaxErrorNear (followingToken verb))
  | .emptyCell => .ok (constant .null)
  | .ordering => match verb with
    | .count | .sum | .average => .error (.syntaxErrorNear (followingToken verb))
    | .minimum | .maximum => .error (.syntaxErrorNear word)
  | .everyValue => match verb with
    | .count => .ok rows
    | .sum | .average => .error (.wrongArgumentCount verb.function)
    | .minimum | .maximum => .error (.syntaxErrorNear (followingToken verb))
  | .distinctValues => match verb with
    | .count => .error .distinctWithoutArgument
    | .sum | .average => .error (.wrongArgumentCount verb.function)
    | .minimum | .maximum => .error (.syntaxErrorNear (followingToken verb))

/-- What the column of a request stands for. -/
def Operand.ofWord (verb : Verb) (word : String) : Except TableError Operand :=
  match wordRole? word with
  | some role => ofRole verb word role
  | none => ofName word

/-- The statement of a request can be read, whatever its names stand for. -/
def checkSyntax (request : Request) : Except TableError Unit :=
  match Operand.ofWord request.verb request.column with
  | .error (.syntaxErrorNear token) => .error (.syntaxErrorNear token)
  | .error _ | .ok _ => .ok ()

/-- The test that the statement of an extremum makes of its operand. One of a column other than the
    name is no part of the condition: it is made of the rows of the grouped relation. -/
def Operand.outerTest (verb : Verb) (operand : Operand) : Sql.OuterTest :=
  match verb with
  | .count | .sum | .average => .nothing
  | .minimum | .maximum => match operand with
    | column (.card .name) => .name
    | column _ | rows => .nothing
    | constant value => if value.isNull then .never else .constant

/-- The outer test of the statement of a request. -/
def outerTest (request : Request) : Sql.OuterTest :=
  match Operand.ofWord request.verb request.column with
  | .ok operand => operand.outerTest request.verb
  | .error _ => .nothing

/-- The cell of a row of the grouped relation in a column. -/
def GroupedRow.cell (row : GroupedRow) : GroupedColumn → Value
  | .card column => row.card.cell column
  | .printing => .integer row.printing

/-- The value of an operand for a row. The rows themselves count as filled cells. -/
def Operand.value (row : GroupedRow) : Operand → Value
  | column source => row.cell source
  | constant value => value
  | rows => .integer 1

theorem cell_of_ofWord (row : GroupedRow) (column : CardColumn) :
    (Operand.column (.card column)).value row = row.card.cell column := rfl

end CardCensus.Store
