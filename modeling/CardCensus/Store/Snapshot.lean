import CardCensus.Number.Integer
import CardCensus.Store.Listing

/-!
# Tables as a text

A snapshot is the text that a file keeps of a store's tables: a heading, then every table as the
count of its rows and the number and the cells of each row. A text cell is framed by its length, so
that it may hold anything.

Results:
* `readUntil_append`: a mark ends what is read before it.
-/

namespace CardCensus.Store.Snapshot

/-- The start of every snapshot. -/
def heading : String := "card census 2\n"

/-- The mark behind a number. -/
def mark : Char := ';'

/-! ## Writing -/

/-- A cell of a snapshot. -/
def writeCell : Value → String
  | .text s => "t" ++ toString s.length ++ ";" ++ s
  | .integer n => "i" ++ toString n ++ ";"
  | .real x => "r" ++ toString x.toBits.toNat ++ ";"
  | .null => "n"

/-- A numbered row. -/
def writeRow (row : Nat × List Value) : String :=
  toString row.1 ++ ";" ++ String.join (row.2.map writeCell)

/-- The rows of a table. -/
def writeRows (rows : List (Nat × List Value)) : String :=
  toString rows.length ++ ";" ++ String.join (rows.map writeRow) ++ "\n"

/-- The snapshot of the tables. -/
def write (tables : Tables) : String :=
  heading ++ String.join (TableName.all.map fun name => writeRows (tables.numberedCells name))

/-! ## Reading -/

/-- Reads something from the start of a text. -/
abbrev Reader (α : Type) := List Char → Option (α × List Char)

/-- What stands before the next mark. -/
def readUntil : Reader (List Char)
  | [] => none
  | c :: rest =>
    if c = mark then some ([], rest) else (readUntil rest).map fun (cs, left) => (c :: cs, left)

/-- A natural number with its mark. -/
def readNat : Reader Nat := fun s => do
  let (digits, rest) ← readUntil s
  some (← Number.decimal? digits, rest)

/-- An integer with its mark. -/
def readInt : Reader Int := fun s => do
  let (digits, rest) ← readUntil s
  some (← Number.signed? digits, rest)

/-- A cell. -/
def readCell : Reader Value
  | 't' :: rest => do
    let (size, rest) ← readNat rest
    if rest.length < size then none
    some (.text (String.ofList (rest.take size)), rest.drop size)
  | 'i' :: rest => (readInt rest).map fun (n, rest) => (.integer n, rest)
  | 'r' :: rest =>
    (readNat rest).map fun (bits, rest) => (.real (.ofBits (UInt64.ofNat bits)), rest)
  | 'n' :: rest => some (.null, rest)
  | _ => none

/-- A given number of things. -/
def readMany {α : Type} (read : Reader α) : Nat → Reader (List α)
  | 0, rest => some ([], rest)
  | n + 1, rest => do
    let (x, rest) ← read rest
    let (xs, rest) ← readMany read n rest
    some (x :: xs, rest)

/-- A numbered row of as many cells as given. -/
def readRow (width : Nat) : Reader (Nat × List Value) := fun s => do
  let (number, rest) ← readNat s
  let (cells, rest) ← readMany readCell width rest
  some ((number, cells), rest)

/-- A table whose rows are each taken from as many cells as given. -/
def readRows {α : Type} (width : Nat) (ofCells? : List Value → Option α) : Reader (Table α) :=
  fun s => do
  let (count, rest) ← readNat s
  let (rows, rest) ← readMany (readRow width) count rest
  let '\n' :: rest := rest | none
  let rows ← rows.mapM fun (number, cells) => (ofCells? cells).map (number, ·)
  some (← Table.ofRows? rows, rest)

/-- The set of a row. -/
def setOfCells? : List Value → Option CardSet
  | [.text code, .text name, .text releaseDate, .text kind, .text block] =>
    some ⟨code, name, releaseDate, kind, block⟩
  | _ => none

/-- An integer that may be absent. -/
def optionalOfCell? : Value → Option (Option Int)
  | .integer n => some (some n)
  | .null => some none
  | _ => none

/-- A double that may be absent. -/
def realOfCell? : Value → Option (Option Float)
  | .real x => some (some x)
  | .null => some none
  | _ => none

/-- The card of a row. -/
def cardOfCells? : List Value → Option CardRow
  | [.text id, .text name, .text manaCost, cmc, .text typeLine, .text text, .text flavor,
    .text artist,
      .text number, power, toughness, loyalty, .integer multiverseId, .text releaseDate] => do
    some { id, name, manaCost, cmc := ← realOfCell? cmc, typeLine, text, flavor, artist, number,
           power := ← optionalOfCell? power, toughness := ← optionalOfCell? toughness,
           loyalty := ← optionalOfCell? loyalty, multiverseId, releaseDate }
  | _ => none

/-- The two texts of a row. -/
def pairOfCells? : List Value → Option (String × String)
  | [.text a, .text b] => some (a, b)
  | _ => none

/-- The colour flags of a row. -/
def colorOfCells? : List Value → Option ColorRow
  | [.text id, .integer white, .integer blue, .integer black, .integer red, .integer green,
      .integer colorless] => some { id, white, blue, black, red, green, colorless }
  | _ => none

/-- The rows of a table of two texts. -/
def readPairs {α : Type} (ofPair : String → String → α) : Reader (Table α) :=
  readRows 2 fun cells => (pairOfCells? cells).map fun (a, b) => ofPair a b

/-- The tables behind the heading. -/
def readTables : Reader Tables := fun s => do
  let (sets, s) ← readRows 5 setOfCells? s
  let (cards, s) ← readRows 14 cardOfCells? s
  let (memberships, s) ← readPairs MembershipRow.mk s
  let (colors, s) ← readRows 7 colorOfCells? s
  let (identities, s) ← readRows 7 colorOfCells? s
  let (supertypes, s) ← readPairs AxisRow.mk s
  let (types, s) ← readPairs AxisRow.mk s
  let (rarities, s) ← readPairs AxisRow.mk s
  let (names, s) ← readPairs NameRow.mk s
  some ({ sets, cards, memberships, colors, identities, supertypes, types, rarities, names }, s)

/-- The tables of a snapshot. -/
def read? (text : String) : Option Tables := do
  let rest ← heading.toList.isPrefixOf? text.toList
  let (tables, []) ← readTables rest | none
  some tables

theorem readUntil_append {digits : List Char} (h : mark ∉ digits) (rest : List Char) :
    readUntil (digits ++ mark :: rest) = some (digits, rest) := by
  induction digits with
  | nil => simp [readUntil]
  | cons c digits ih =>
    rw [List.mem_cons, not_or] at h
    simp [readUntil, ih h.2, Ne.symm h.1]

end CardCensus.Store.Snapshot
