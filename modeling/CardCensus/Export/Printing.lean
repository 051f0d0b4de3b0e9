import CardCensus.Card
import CardCensus.Export.Leniency
import CardCensus.Json.Record
import CardCensus.ManaCost

/-!
# Printings in an export

`ExportedCard` holds what an export says of a printing; `ExportedCard.toCard` is the card of the
corpus. A printing has to give its id and its name; everything else may be missing.
-/

namespace CardCensus.Export

open CardCensus.Json (Fault Reader RecordKind Slot Tree)

/-- A field that is taken up by the given function once it is read. -/
def field {σ α : Type} (name : String) (read : Reader α) (put : σ → α → σ)
    (required : Bool := false) :
    Slot σ where
  name := name
  required := required
  read := fun state rest => (read rest).map fun (x, rest) => (put state x, rest)

/-- How deep values may be nested in a document. -/
def depthLimit : Nat := 128

/-- How deep values may be nested in a field of a printing, below the document, the set, the list of
    printings and the printing. -/
def fieldDepth : Nat := depthLimit - 4

/-- A field of a printing that may hold any value, of which a part is kept. -/
def lenient {α : Type} (keep : Tree → α) : Reader α := fun rest =>
  (Json.readValue fieldDepth rest).map fun (tree, rest) => (keep tree, rest)

/-- The text of a value that is one. -/
def text? : Tree → Option String
  | .string text => some text
  | _ => none

/-- The rarities of a printing: one text or a list of texts. -/
def rarities? : Tree → Option (List String)
  | .string text => some [text]
  | .list items => items.mapM text?
  | _ => none

/-- Reads the rarities of a printing. -/
def readRarities : Reader (List String) := fun rest =>
  match Json.readValue fieldDepth rest with
  | .error fault => .error fault
  | .ok (tree, rest) => match rarities? tree with
    | some rarities => .ok (rarities, rest)
    | none => .error (.unsettled (.noVariant "Rarity") rest)

/-- What an export says of a printing. -/
structure ExportedCard where
  id : String := ""
  name : String := ""
  manaCost : String := ""
  cmc : Float := 0
  colors : List String := []
  colorIdentity : List String := []
  typeLine : String := ""
  supertypes : List String := []
  types : List String := []
  rarities : List String := []
  text : String := ""
  flavor : String := ""
  artist : String := ""
  number : String := ""
  power : Option Int := none
  toughness : Option Int := none
  loyalty : Option Int := none
  multiverseId : Option Int := none
  releaseDate : String := ""
  deriving DecidableEq, Inhabited

namespace ExportedCard

/-- The fields of a printing in their order. -/
def slots : List (Slot ExportedCard) :=
  [field "id" Json.readText (fun card x => { card with id := x }) true,
    field "name" Json.readText (fun card x => { card with name := x }) true,
    field "manaCost" Json.readText (fun card x => { card with manaCost := x }),
    field "cmc" Json.readReal (fun card x => { card with cmc := x }),
    field "colors" (Json.readList Json.readText) (fun card x => { card with colors := x }),
    field "colorIdentity" (Json.readList Json.readText)
      (fun card x => { card with colorIdentity := x }),
    field "type" Json.readText (fun card x => { card with typeLine := x }),
    field "supertypes" (Json.readList Json.readText) (fun card x => { card with supertypes := x }),
    field "types" (Json.readList Json.readText) (fun card x => { card with types := x }),
    field "rarity" readRarities (fun card x => { card with rarities := x }),
    field "text" Json.readText (fun card x => { card with text := x }),
    field "flavor" Json.readText (fun card x => { card with flavor := x }),
    field "artist" Json.readText (fun card x => { card with artist := x }),
    field "number" (lenient lenientText) (fun card x => { card with number := x }),
    field "power" (lenient lenientInteger?) (fun card x => { card with power := x }),
    field "toughness" (lenient lenientInteger?) (fun card x => { card with toughness := x }),
    field "loyalty" (lenient lenientInteger?) (fun card x => { card with loyalty := x }),
    field "multiverseid" (lenient lenientInteger?) (fun card x => { card with multiverseId := x }),
    field "releaseDate" Json.readText (fun card x => { card with releaseDate := x })]

/-- Printings as records of a document. -/
def kind : RecordKind ExportedCard := ⟨"CardRecord", {}, slots⟩

/-- The card of the corpus (`to_card`). A printing without a date has that of its set. -/
def toCard (card : ExportedCard) (setReleaseDate : String) : Card where
  id := card.id
  name := card.name
  manaCost := ManaCost.display card.manaCost
  cmc := card.cmc
  typeLine := card.typeLine
  text := card.text
  flavor := card.flavor
  artist := card.artist
  number := card.number
  power := card.power
  toughness := card.toughness
  loyalty := card.loyalty
  multiverseId := card.multiverseId.getD 0
  releaseDate := if card.releaseDate.isEmpty then setReleaseDate else card.releaseDate
  colors := .ofNames card.colors
  colorIdentity := .ofNames card.colorIdentity
  supertypes := card.supertypes
  types := card.types
  rarities := card.rarities

end ExportedCard

end CardCensus.Export
