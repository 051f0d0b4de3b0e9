import CardCensus.Query.Clause

/-!
# Written queries

`Query.write` writes a query and its requests as a match text: one clause for each field, then one
clause for each request.
-/

namespace CardCensus

/-- Parts with a separator between them. -/
def joinWith (separator : Char) (parts : List (List Char)) : List Char :=
  [separator].intercalate parts

/-- A field with its terms as a clause. -/
def writeFilter (field : Field) (terms : List String) : List Char :=
  field.display.toList ++ Clause.fieldMark :: joinWith Clause.valueSeparator
    (terms.map String.toList)

/-- A request as a clause. -/
def writeRequest (request : Request) : List Char :=
  request.verb.function.toList ++ Clause.fieldMark :: request.column.toList

/-- A query and requests as a match text. -/
def Query.write (query : Query) (requests : List Request) : String :=
  String.ofList (joinWith Clause.separator
    (query.fields.map (fun (field, terms) => writeFilter field terms) ++ requests.map writeRequest))

end CardCensus
