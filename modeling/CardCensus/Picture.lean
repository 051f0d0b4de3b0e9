import CardCensus.Text.Split

/-!
# Picture addresses

A template holds the mark `{id}` wherever a card's number belongs.
-/

namespace CardCensus.Picture

/-- The mark that a number takes the place of. -/
def mark : List Char := ['\x7b', 'i', 'd', '\x7d']

/-- The address of the picture with the given number (`image_url`). -/
def address (template : String) (number : Int) : String :=
  String.ofList (Text.replaceAll mark (toString number).toList template.toList)

end CardCensus.Picture
