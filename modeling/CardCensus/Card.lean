import CardCensus.Color

/-!
# Cards and sets

A `Card` is one printing of a card: the same name printed in three sets makes three cards. A
`CardSet` is a set that cards are printed in.
-/

namespace CardCensus

/-- One printing of a card. -/
structure Card where
  id : String
  name : String
  manaCost : String := ""
  cmc : Float := 0
  typeLine : String := ""
  text : String := ""
  flavor : String := ""
  artist : String := ""
  number : String := ""
  power : Option Int := none
  toughness : Option Int := none
  loyalty : Option Int := none
  /-- The number of the card's picture; zero for a placeholder without one. -/
  multiverseId : Int := 0
  releaseDate : String := ""
  colors : ColorMask := .colorless
  colorIdentity : ColorMask := .colorless
  supertypes : List String := []
  types : List String := []
  rarities : List String := []
  deriving DecidableEq, Inhabited

/-- A set that cards are printed in. -/
structure CardSet where
  code : String
  name : String
  releaseDate : String := ""
  kind : String := ""
  block : String := ""
  deriving DecidableEq, Inhabited

end CardCensus
