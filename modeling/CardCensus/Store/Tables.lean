import CardCensus.Card
import CardCensus.Sql.Schema
import CardCensus.Store.Table

/-!
# The tables of the store

The corpus lies in nine tables of numbered rows. They are emptied one after the other, in the order
of `TableName.all`.

Results:
* `Tables.clear_eq`: once every table has been emptied, nothing is left.
-/

namespace CardCensus.Store

/-- The double that a table keeps: no number becomes an empty cell, and both zeros become zero. -/
def storedReal (x : Float) : Option Float :=
  if Number.isNotANumber x then none else if Number.orderKey x = 0 then some 0 else some x

/-- A row of the table of cards. -/
structure CardRow where
  id : String
  name : String
  manaCost : String
  cmc : Option Float
  typeLine : String
  text : String
  flavor : String
  artist : String
  number : String
  power : Option Int
  toughness : Option Int
  loyalty : Option Int
  multiverseId : Int
  releaseDate : String
  deriving DecidableEq, Inhabited

/-- The row of a printing. -/
def CardRow.ofCard (card : Card) : CardRow where
  id := card.id
  name := card.name
  manaCost := card.manaCost
  cmc := storedReal card.cmc
  typeLine := card.typeLine
  text := card.text
  flavor := card.flavor
  artist := card.artist
  number := card.number
  power := card.power
  toughness := card.toughness
  loyalty := card.loyalty
  multiverseId := card.multiverseId
  releaseDate := card.releaseDate

/-- A column of the table of cards. -/
inductive CardColumn where
  | id
  | name
  | manaCost
  | cmc
  | typeLine
  | text
  | flavor
  | artist
  | number
  | power
  | toughness
  | loyalty
  | multiverseId
  | releaseDate
  deriving Repr, DecidableEq, Inhabited

namespace CardColumn

/-- The columns in the order of the table. -/
def all : List CardColumn :=
  [id, name, manaCost, cmc, typeLine, text, flavor, artist, number, power, toughness, loyalty,
    multiverseId,
    releaseDate]

/-- The name of the column. -/
def columnName : CardColumn → String
  | id => "id"
  | name => "name"
  | manaCost => "mana_cost"
  | cmc => "cmc"
  | typeLine => "type"
  | text => "card_text"
  | flavor => "flavor"
  | artist => "artist"
  | number => "number"
  | power => "power"
  | toughness => "toughness"
  | loyalty => "loyalty"
  | multiverseId => "multiverse_id"
  | releaseDate => "release_date"

end CardColumn

/-- A cell that may be empty. -/
def optionalInteger : Option Int → Value
  | some n => .integer n
  | none => .null

/-- The cell of a row in a column. -/
def CardRow.cell (row : CardRow) : CardColumn → Value
  | .id => .text row.id
  | .name => .text row.name
  | .manaCost => .text row.manaCost
  | .cmc => match row.cmc with
    | some x => .real x
    | none => .null
  | .typeLine => .text row.typeLine
  | .text => .text row.text
  | .flavor => .text row.flavor
  | .artist => .text row.artist
  | .number => .text row.number
  | .power => optionalInteger row.power
  | .toughness => optionalInteger row.toughness
  | .loyalty => optionalInteger row.loyalty
  | .multiverseId => .integer row.multiverseId
  | .releaseDate => .text row.releaseDate

/-- The cells of a row in the order of the table. -/
def CardRow.cells (row : CardRow) : List Value :=
  CardColumn.all.map row.cell

/-- A row that pairs a card with the code of its set. -/
structure MembershipRow where
  setCode : String
  id : String
  deriving Repr, DecidableEq, Inhabited

/-- A row of colour flags, each zero or one. -/
structure ColorRow where
  id : String
  white : Int
  blue : Int
  black : Int
  red : Int
  green : Int
  colorless : Int
  deriving Repr, DecidableEq, Inhabited

/-- A flag as a number. -/
def flag (on : Bool) : Int :=
  if on then 1 else 0

/-- The row of a card with the given mask (`insert_colors`). -/
def ColorRow.ofMask (id : String) (mask : ColorMask) : ColorRow :=
  ⟨id, flag mask.white, flag mask.blue, flag mask.black, flag mask.red, flag mask.green,
    flag mask.isColorless⟩

/-- The flags of a row in the order of the table. -/
def ColorRow.flags (row : ColorRow) : List Int :=
  [row.white, row.blue, row.black, row.red, row.green, row.colorless]

/-- A row that pairs a card with one of its values on an axis. -/
structure AxisRow where
  id : String
  value : String
  deriving Repr, DecidableEq, Inhabited

/-- A row of the word index of card names. -/
structure NameRow where
  id : String
  name : String
  deriving Repr, DecidableEq, Inhabited

/-- One of the nine tables. -/
inductive TableName where
  | sets
  | cards
  | setMembership
  | color
  | colorIdentity
  | axis (axis : Axis)
  | nameIndex
  deriving Repr, DecidableEq

namespace TableName

/-- The tables in the order in which they are emptied. -/
def all : List TableName :=
  [sets, cards, setMembership, color, colorIdentity, axis .supertype, axis .type, axis .rarity,
    nameIndex]

/-- The name of the table. -/
def name : TableName → String
  | sets => "sets"
  | cards => Relation.cards.table
  | setMembership => Relation.setMembership.table
  | color => Relation.color.table
  | colorIdentity => Relation.colorIdentity.table
  | axis a => a.table
  | nameIndex => Sql.nameIndexTable

end TableName

/-- The nine tables. -/
structure Tables where
  sets : Table CardSet := .empty
  cards : Table CardRow := .empty
  memberships : Table MembershipRow := .empty
  colors : Table ColorRow := .empty
  identities : Table ColorRow := .empty
  supertypes : Table AxisRow := .empty
  types : Table AxisRow := .empty
  rarities : Table AxisRow := .empty
  names : Table NameRow := .empty
  deriving DecidableEq, Inhabited

namespace Tables

/-- The rows of one axis. -/
def axisRows (tables : Tables) : Axis → Table AxisRow
  | .supertype => tables.supertypes
  | .type => tables.types
  | .rarity => tables.rarities

/-- The ids that a tag's view lists, one for each row of the tag's value. -/
def view (tables : Tables) (tag : Tag) : List String :=
  ((tables.axisRows tag.axis).entries.filter (·.value == tag.storedValue)).map (·.id)

/-- The tables with one of them emptied. -/
def empty (tables : Tables) : TableName → Tables
  | .sets => { tables with sets := .empty }
  | .cards => { tables with cards := .empty }
  | .setMembership => { tables with memberships := .empty }
  | .color => { tables with colors := .empty }
  | .colorIdentity => { tables with identities := .empty }
  | .axis .supertype => { tables with supertypes := .empty }
  | .axis .type => { tables with types := .empty }
  | .axis .rarity => { tables with rarities := .empty }
  | .nameIndex => { tables with names := .empty }

/-- The tables emptied one after the other (`Writer.clear`). -/
def clear (tables : Tables) : Tables :=
  TableName.all.foldl empty tables

theorem clear_eq (tables : Tables) : tables.clear = {} := rfl

end Tables

end CardCensus.Store
