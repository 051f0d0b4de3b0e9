import CardCensus.Sql.Schema
import CardCensus.Store.Write

/-!
# Listing what the store holds

Every table, and the view of every tag, can be listed row by row.
-/

namespace CardCensus

namespace Store

/-- Something that can be listed. -/
inductive Listing where
  | table (name : TableName)
  | view (tag : Tag)
  deriving Repr, DecidableEq

namespace Listing

/-- The tables. -/
def tables : List Listing :=
  TableName.all.map table

/-- The name of the table or view. -/
def name : Listing → String
  | table t => t.name
  | view tag => tag.view

end Listing

/-- The cells of a set. -/
def setCells (set : CardSet) : List Value :=
  [set.code, set.name, set.releaseDate, set.kind, set.block].map Value.text

/-- The cells of a row of colour flags. -/
def ColorRow.cells (row : ColorRow) : List Value :=
  .text row.id :: row.flags.map Value.integer

/-- The cells of a table's rows under their row numbers. -/
def Tables.numberedCells (tables : Tables) : TableName → List (Nat × List Value)
  | .sets => tables.sets.rows.map fun (number, set) => (number, setCells set)
  | .cards => tables.cards.rows.map fun (number, card) => (number, card.cells)
  | .setMembership =>
    tables.memberships.rows.map fun (number, row) => (number, [.text row.setCode, .text row.id])
  | .color => tables.colors.rows.map fun (number, row) => (number, row.cells)
  | .colorIdentity => tables.identities.rows.map fun (number, row) => (number, row.cells)
  | .axis axis =>
    (tables.axisRows axis).rows.map fun (number, row) => (number, [.text row.id, .text row.value])
  | .nameIndex =>
    tables.names.rows.map fun (number, row) => (number, [.text row.id, .text row.name])

/-- The rows of a listing: tables by row number, views by id. -/
def Tables.list (tables : Tables) : Listing → List (List Value)
  | .table name => (tables.numberedCells name).map (·.2)
  | .view tag => ((tables.view tag).mergeSort fun a b => decide (a ≤ b)).map fun id => [.text id]

end Store

/-- The rows of a listing. -/
def Store.list (store : Store) (listing : Store.Listing) : Except StoreError (List (List Value)) :=
  match store.tables with
  | none => .error (.table (.noSuchTable listing.name))
  | some tables => .ok (tables.list listing)

end CardCensus
