/-!
# Errors of the store

Why a request or a write fails, with the wording of each cause in `StoreError.message`.
-/

namespace CardCensus

/-- What was about to start when the time ran out. -/
inductive Stage where
  | compilation
  | aggregation
  deriving Repr, DecidableEq

/-- The stage in an error text. -/
def Stage.name : Stage → String
  | .compilation => "compilation"
  | .aggregation => "aggregation"

/-- A limit of the tables. -/
inductive Limit where
  /-- How many question marks a statement has. -/
  | parameters
  /-- How deeply a condition is nested. -/
  | depth
  /-- How long a pattern is that a row is tested against. -/
  | pattern
  deriving Repr, DecidableEq

/-- The wording for a limit that is exceeded. -/
def Limit.message : Limit → String
  | .parameters => "too many SQL variables"
  | .depth => "Expression tree is too large (maximum depth 1000)"
  | .pattern => "LIKE or GLOB pattern too complex"

/-- A reason why the tables refuse a statement. -/
inductive TableError where
  | noSuchTable (table : String)
  | noSuchColumn (column : String)
  /-- The statement cannot be read at the given token. -/
  | syntaxErrorNear (token : String)
  /-- An aggregate stands without its argument. -/
  | wrongArgumentCount (function : String)
  /-- The word for distinct values stands without an argument. -/
  | distinctWithoutArgument
  /-- A sum of integers leaves the 64 bits. -/
  | integerOverflow
  /-- A search expression ends inside a quoted word. -/
  | unterminatedString
  /-- The statement exceeds a limit, or a row comes upon something that does. -/
  | exceeded (limit : Limit)
  deriving Repr, DecidableEq

/-- The wording of a refusal by the tables (`sqlite_message`). -/
def TableError.message : TableError → String
  | .noSuchTable table => "no such table: " ++ table
  | .noSuchColumn column => "no such column: " ++ column
  | .syntaxErrorNear token => "near \"" ++ token ++ "\": syntax error"
  | .wrongArgumentCount function => "wrong number of arguments to function " ++ function ++ "()"
  | .distinctWithoutArgument => "DISTINCT aggregates must have exactly one argument"
  | .integerOverflow => "integer overflow"
  | .unterminatedString => "unterminated string"
  | .exceeded limit => limit.message

/-- Why a request or a write fails. -/
inductive StoreError where
  /-- The tables refuse the statement. -/
  | table (cause : TableError)
  /-- The column of a request is no column name. -/
  | invalidColumn (column : String)
  /-- A sum or an average is asked of texts. -/
  | typeMismatch (column : String)
  /-- The time ran out before the stage. -/
  | deadlineExceeded (stage : Stage)
  deriving Repr, DecidableEq

/-- The wording of an error. -/
def StoreError.message : StoreError → String
  | .table cause => cause.message
  | .invalidColumn column => "invalid column name '" ++ column ++ "'"
  | .typeMismatch column => "column '" ++ column ++ "' is not numeric"
  | .deadlineExceeded stage => "deadline exceeded before " ++ stage.name

end CardCensus
