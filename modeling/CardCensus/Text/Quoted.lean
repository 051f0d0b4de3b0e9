import CardCensus.Text.Unprintable

/-!
# Quoted text

A quoted text stands between double quotes. Quotes, backslashes and characters without a glyph are
escaped, so that the quoted form holds no line break.
-/

namespace CardCensus.Text

/-- The number of a character in lower-case hexadecimal digits. -/
def hexDigits (n : Nat) : List Char :=
  Nat.toDigits 16 n

/-- One character inside a quoted text. -/
def quoteChar (c : Char) : List Char :=
  if c = '"' then ['\\', '"']
  else if c = '\\' then ['\\', '\\']
  else if c = '\x00' then ['\\', '0']
  else if c = '\t' then ['\\', 't']
  else if c = '\n' then ['\\', 'n']
  else if c = '\r' then ['\\', 'r']
  else if isUnprintable c then ['\\', 'u', '\x7b'] ++ hexDigits c.toNat ++ ['\x7d']
  else [c]

/-- The text between double quotes. -/
def quote (s : List Char) : List Char :=
  '"' :: s.flatMap quoteChar ++ ['"']

/-- The string between double quotes. -/
def quoted (s : String) : String :=
  String.ofList (quote s.toList)

end CardCensus.Text
