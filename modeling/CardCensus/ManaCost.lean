import CardCensus.Text.Split

/-!
# Mana costs

A cost is a row of symbols in braces. In a chat a known symbol is written as a code between colons;
unknown symbols and everything around the symbols stay as they are.
-/

namespace CardCensus.ManaCost

/-- The known symbols, without their braces, and their codes, without their colons. -/
def codes : List (String × String) :=
  [("W", "ww"), ("U", "uu"), ("B", "bb"), ("R", "rr"), ("G", "gg"), ("X", "xx"),
    ("1", "1"), ("2", "2"), ("3", "3"), ("4", "4"), ("5", "5"), ("6", "6"), ("7", "7"), ("8", "8"),
    ("9", "9"), ("10", "10"), ("11", "11"), ("12", "12"), ("13", "13"), ("14", "14"), ("15", "15"),
    ("20", "20"),
    ("2w", "2w"), ("2u", "2u"), ("2b", "2b"), ("2r", "2r"), ("2g", "2g"),
    ("W/P", "wp"), ("U/P", "up"), ("B/P", "bp"), ("R/P", "rp"), ("G/P", "gp"),
    ("W/U", "wu"), ("W/B", "wb"), ("U/B", "ub"), ("U/R", "ur"), ("B/R", "br"), ("B/G", "bg"),
    ("R/G", "rg"), ("R/W", "rw"), ("G/W", "gw"), ("G/U", "gu")]

/-- The brace that opens a symbol. -/
def openingBrace : Char := '\x7b'

/-- The brace that closes a symbol. -/
def closingBrace : Char := '\x7d'

/-- A symbol as the chat writes it, given what stands between its braces. -/
def writeSymbol (inner : List Char) : List Char :=
  match codes.find? fun (symbol, _) => symbol.toList == inner with
  | some (_, code) => ':' :: code.toList ++ [':']
  | none => openingBrace :: inner ++ [closingBrace]

/-- A cost as the chat writes it. A brace that is never closed ends the search for symbols. -/
def encode (cost : List Char) : List Char :=
  match _h : Text.cutAtChar openingBrace cost with
  | none => cost
  | some (before, inside) =>
    match _h' : Text.cutAtChar closingBrace inside with
    | none => cost
    | some (inner, after) => before ++ writeSymbol inner ++ encode after
termination_by cost.length
decreasing_by
  have h₁ := Text.length_of_cutAt _h
  have h₂ := Text.length_of_cutAt _h'
  simp only [List.length_cons, List.length_nil] at h₁ h₂
  omega

/-- A cost, given as a string, as the chat writes it (`format_cost`). -/
def display (cost : String) : String :=
  String.ofList (encode cost.toList)

end CardCensus.ManaCost
