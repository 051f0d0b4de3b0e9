import CardCensus.Export.Printing

/-!
# Sets in an export

`ExportedSet` holds what an export says of a set, with its printings. A set has to give its name and
its code. Promotional sets are not taken into the corpus.
-/

namespace CardCensus.Export

open CardCensus.Json (RecordKind Slot)

/-- What an export says of a set. -/
structure ExportedSet where
  name : String := ""
  code : String := ""
  releaseDate : String := ""
  kind : String := ""
  block : String := ""
  cards : List ExportedCard := []
  deriving DecidableEq, Inhabited

namespace ExportedSet

/-- The fields of a set in their order. -/
def slots : List (Slot ExportedSet) :=
  [field "name" Json.readText (fun set x => { set with name := x }) true,
    field "code" Json.readText (fun set x => { set with code := x }) true,
    field "releaseDate" Json.readText (fun set x => { set with releaseDate := x }),
    field "type" Json.readText (fun set x => { set with kind := x }),
    field "block" Json.readText (fun set x => { set with block := x }),
    field "cards" (Json.readList ExportedCard.kind.read) (fun set x => { set with cards := x })]

/-- Sets as records of a document. -/
def record : RecordKind ExportedSet := ⟨"SetRecord", {}, slots⟩

/-- The kind of the sets that are not taken into the corpus. -/
def promotionalKind : String := "promo"

/-- The set is not taken into the corpus (`is_promo`). -/
def isPromotional (set : ExportedSet) : Bool :=
  set.kind == promotionalKind

/-- The set of the corpus (`to_card_set`). -/
def toCardSet (set : ExportedSet) : CardSet :=
  ⟨set.code, set.name, set.releaseDate, set.kind, set.block⟩

/-- The cards of the corpus that the set prints. -/
def toCards (set : ExportedSet) : List Card :=
  set.cards.map fun card => card.toCard set.releaseDate

end ExportedSet

end CardCensus.Export
