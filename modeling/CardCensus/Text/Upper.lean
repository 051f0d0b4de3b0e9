import CardCensus.Text.UpperTable

/-!
# Upper case

`upper` brings every letter of a text to upper case by the Unicode rules, which may turn one letter
into several.
-/

namespace CardCensus.Text

/-- The upper case of one character. -/
def upperChar (c : Char) : List Char :=
  let code := c.toNat
  if code < 0x80 then [c.toUpper]
  else match upperExpansions.find? (·.1 == code) with
    | some (_, codes) => codes.map Char.ofNat
    | none => match upperRuns.find? (·.covers code) with
      | some run => [Char.ofNat (run.apply code)]
      | none => [c]

/-- The upper case of a text. -/
def upper (s : List Char) : List Char :=
  s.flatMap upperChar

/-- The upper case of a string. -/
def uppercased (s : String) : String :=
  String.ofList (upper s.toList)

end CardCensus.Text
