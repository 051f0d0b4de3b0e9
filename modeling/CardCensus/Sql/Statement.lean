import CardCensus.Value

/-!
# Statements

A statement is a text with a question mark for each value that is bound to it.
-/

namespace CardCensus.Sql

/-- Lines or parts with a separator between them. -/
def join (separator : String) (parts : List String) : String :=
  separator.intercalate parts

/-- A text with the values for its question marks, in order. -/
structure Statement where
  text : String
  parameters : List Value := []
  deriving DecidableEq, Inhabited

/-- The statement as it is logged: its text and, if there are any, its values. -/
def Statement.display (statement : Statement) : String :=
  if statement.parameters.isEmpty then statement.text
  else statement.text ++ " -- [" ++ join ", " (statement.parameters.map Value.quoted) ++ "]"

end CardCensus.Sql
