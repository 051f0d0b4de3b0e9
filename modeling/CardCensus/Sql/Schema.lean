import CardCensus.Category
import CardCensus.Color
import CardCensus.Plan
import CardCensus.Sql.Statement

/-!
# The schema of the store

The statements that create the tables, their indexes, the word index of card names and one view for
each category tag.
-/

namespace CardCensus.Sql

/-- The table of the word index of card names. -/
def nameIndexTable : String := "card_names"

/-- A column with its declaration. -/
structure ColumnDeclaration where
  name : String
  declaration : String

/-- The statement that creates a table with its columns on lines of their own. -/
def createTable (table : String) (columns : List ColumnDeclaration) : String :=
  "CREATE TABLE IF NOT EXISTS " ++ table ++ " (\n" ++
    join ",\n" (columns.map fun c => "  " ++ c.name ++ " " ++ c.declaration) ++ "\n)"

/-- The statement that creates a table with its columns on one line. -/
def createPairTable (table : String) (columns : List ColumnDeclaration) : String :=
  "CREATE TABLE IF NOT EXISTS " ++ table ++ " (" ++
    join ", " (columns.map fun c => c.name ++ " " ++ c.declaration) ++ ")"

/-- The statement that creates an index. -/
def createIndex (index table columns : String) : String :=
  "CREATE INDEX IF NOT EXISTS " ++ index ++ " ON " ++ table ++ " (" ++ columns ++ ")"

/-- The columns of the table of sets. -/
def setColumns : List ColumnDeclaration :=
  [⟨"code", "TEXT PRIMARY KEY"⟩, ⟨"name", "TEXT NOT NULL"⟩, ⟨"release_date", "TEXT"⟩,
    ⟨"type", "TEXT"⟩,
    ⟨"block", "TEXT"⟩]

/-- The columns of the table of cards. -/
def cardColumns : List ColumnDeclaration :=
  [⟨"id", "TEXT NOT NULL"⟩, ⟨"name", "TEXT NOT NULL"⟩, ⟨"mana_cost", "TEXT"⟩, ⟨"cmc", "REAL"⟩,
    ⟨"type", "TEXT"⟩, ⟨"card_text", "TEXT"⟩, ⟨"flavor", "TEXT"⟩, ⟨"artist", "TEXT"⟩,
      ⟨"number", "TEXT"⟩,
    ⟨"power", "INTEGER"⟩, ⟨"toughness", "INTEGER"⟩, ⟨"loyalty", "INTEGER"⟩,
    ⟨"multiverse_id", "INTEGER NOT NULL DEFAULT 0"⟩, ⟨"release_date", "TEXT"⟩]

/-- The columns of a table of colours (`color_table_sql`). -/
def colorColumns : List ColumnDeclaration :=
  ⟨"id", "TEXT PRIMARY KEY"⟩ ::
    (Channel.all.map Channel.column ++ [ColorMask.colorlessColumn]).map (⟨·, "INTEGER NOT NULL"⟩)

/-- The statements for the table of one axis. -/
def axisStatements (axis : Axis) : List String :=
  [createPairTable axis.table [⟨"id", "TEXT NOT NULL"⟩, ⟨axis.name, "TEXT NOT NULL"⟩],
    createIndex (axis.table ++ "_" ++ axis.name) axis.table (axis.name ++ ", id")]

/-- The statements for the tables and indexes (`table_statements`). -/
def tableStatements : List String :=
  [createTable "sets" setColumns,
    createTable Relation.cards.table cardColumns,
    createIndex "cards_id" "cards" "id",
    createIndex "cards_name" "cards" "name",
    createPairTable Relation.setMembership.table
      [⟨"set_code", "TEXT NOT NULL"⟩, ⟨"id", "TEXT NOT NULL"⟩],
    createIndex "set_card_id" "set_card" "id",
    createTable Relation.color.table colorColumns,
    createTable Relation.colorIdentity.table colorColumns] ++
  [Axis.supertype, Axis.type, Axis.rarity].flatMap axisStatements ++
  ["CREATE VIRTUAL TABLE IF NOT EXISTS " ++ nameIndexTable ++ " USING fts5(id UNINDEXED, name)"]

/-- The statement for the view of one tag. -/
def viewStatement (tag : Tag) : String :=
  "CREATE VIEW IF NOT EXISTS " ++ tag.view ++ " (id) AS SELECT id FROM " ++ tag.axis.table ++
    " WHERE " ++
    tag.axis.name ++ " = '" ++ tag.storedValue ++ "'"

/-- The statements for the views (`view_statements`). -/
def viewStatements : List String :=
  Tag.all.map viewStatement

/-- All statements of the schema (`schema_statements`). -/
def schemaStatements : List String :=
  tableStatements ++ viewStatements

end CardCensus.Sql
