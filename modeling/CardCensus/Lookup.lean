import CardCensus.Picture
import CardCensus.Store.Selection
import CardCensus.Store.Write
import CardCensus.Text.Tokens
import CardCensus.Text.Upper
import CardCensus.Text.Words

/-!
# Looking cards up by name

A lookup names a card and may restrict the set. Every word of the name becomes a quoted word of a
search expression; a card is a candidate when each of these, read as a run of searchable words,
stands in its name. Of the candidates the first with exactly the requested name is shown, else the
first.

Results:
* `lookup_blank`: a blank name finds nothing, whatever the store.
* `expression_eq_nil_iff`: the expression is empty exactly when the name has no words.
-/

namespace CardCensus

/-- The sets that a lookup is restricted to. -/
inductive SetScope where
  /-- Any set. -/
  | any
  /-- The set with the given code. -/
  | code (code : String)
  /-- Any set, and all sets of the card are shown. -/
  | all
  deriving Repr, DecidableEq, Inhabited

/-- A card that is looked up. -/
structure CardSearch where
  name : String
  scope : SetScope
  deriving Repr, DecidableEq, Inhabited

namespace CardSearch

/-- What parts the name from the set. -/
def setMark : Char := '|'

/-- The scope that a set text stands for. -/
def scopeOf (set : List Char) : SetScope :=
  if set.isEmpty then .any
  else if Text.fold set == "all".toList then .all
  else .code (String.ofList (Text.upper set))

/-- The search of a text (`LookupRequest.parse`). -/
def ofText (text : String) : CardSearch :=
  let (name, set) := (Text.cutAtChar setMark text.toList).getD (text.toList, [])
  ⟨String.ofList (Text.trim name), scopeOf (Text.trim set)⟩

end CardSearch

/-- What is shown of a card. -/
structure FoundCard where
  name : String
  manaCost : String
  text : String
  multiverseId : Int
  sets : String
  deriving Repr, DecidableEq, Inhabited

namespace Lookup

/-- A word between quotes, a quote inside it written twice. -/
def quoteWord (word : List Char) : List Char :=
  '"' :: word.flatMap (fun c => if c = '"' then ['"', '"'] else [c]) ++ ['"']

/-- The search expression of a name: its words in quotes (`match_expression`). -/
def expression (name : List Char) : List Char :=
  [' '].intercalate ((Text.words name).map quoteWord)

theorem quoteWord_ne_nil (word : List Char) : quoteWord word ≠ [] := by
  simp [quoteWord]

theorem expression_eq_nil_iff {name : List Char} : expression name = [] ↔ Text.words name = [] := by
  unfold expression
  match Text.words name with
  | [] => simp
  | [word] => simp [quoteWord_ne_nil]
  | word :: other :: rest => simp [List.intercalate, quoteWord_ne_nil]

/-- Where the reading of an expression stands. -/
inductive Reading where
  | outside
  | inside (word : List Char)
  deriving Repr, DecidableEq

/-- The quoted words of an expression, in order. There is no reading when something stands outside
    the quotes, and none when a quote is left open. -/
def quotedWordsFrom : Reading → List Char → Except Unit (List (List Char))
  | .outside, [] => .ok []
  | .outside, c :: rest =>
    if c = ' ' then quotedWordsFrom .outside rest
    else if c = '"' then quotedWordsFrom (.inside []) rest
    else .error ()
  | .inside _, [] => .error ()
  | .inside word, '"' :: '"' :: rest => quotedWordsFrom (.inside ('"' :: word)) rest
  | .inside word, '"' :: rest => (quotedWordsFrom .outside rest).map (word.reverse :: ·)
  | .inside word, c :: rest => quotedWordsFrom (.inside (c :: word)) rest

/-- The quoted words of an expression, which ends at a character with number zero. -/
def quotedWords (expression : List Char) : Except TableError (List (List Char)) :=
  match quotedWordsFrom .outside (Text.untilNul expression) with
  | .ok words => .ok words
  | .error () => .error .unterminatedString

/-- The runs of searchable words that a card's name has to hold; a word without any is
    passed over. -/
def phrases (words : List (List Char)) : List (List (List UInt8)) :=
  (words.map Text.terms).filter (!·.isEmpty)

/-- The run stands somewhere in the list. -/
def holdsRun {α : Type} [BEq α] (run : List α) : List α → Bool
  | [] => run.isEmpty
  | x :: rest => run.isPrefixOf (x :: rest) || holdsRun run rest

/-- The name holds every phrase, and there is a phrase to hold. -/
def nameMatches (phrases : List (List (List UInt8))) (name : String) : Bool :=
  !phrases.isEmpty && phrases.all fun phrase => holdsRun phrase (Text.terms name.toList)

/-- The set lies in the scope of a search. -/
def admits (scope : SetScope) (setCode : String) : Bool :=
  match scope with
  | .code code => setCode == code
  | .any | .all => true

/-- What is shown of a card found under a set. -/
def summary (card : Store.CardRow) (setCode : String) : FoundCard :=
  ⟨card.name, card.manaCost, card.text, card.multiverseId, setCode⟩

/-- The candidates of a lookup in the order of row numbers. -/
def candidates (tables : Store.Tables) (phrases : List (List (List UInt8))) (scope : SetScope) :
    List FoundCard :=
  tables.cards.entries.flatMap fun card =>
    if card.multiverseId = 0 then []
    else
      let indexed :=
        tables.names.entries.filter fun row => row.id == card.id && nameMatches phrases row.name
      let memberships := tables.memberships.entries.filter fun row =>
        row.id == card.id && admits scope row.setCode
      indexed.flatMap fun _ => memberships.map fun row => summary card row.setCode

/-- The first candidate with the requested name in any case, else the first candidate. -/
def pick (name : String) (found : List FoundCard) : Option FoundCard :=
  match found.find? fun card => Text.sameFolded card.name name with
  | some card => some card
  | none => found.head?

/-- The codes of all sets that a card is printed in. -/
def setCodes (tables : Store.Tables) (name : String) : List String :=
  Store.sortedDistinct ((tables.cards.entries.filter (·.name == name)).flatMap fun card =>
    (tables.memberships.entries.filter (·.id == card.id)).map (·.setCode))

/-- The codes as one text. -/
def joinedCodes (codes : List String) : String :=
  ", ".intercalate codes

/-- The card that a search finds in the tables (`lookup`). -/
def find (tables : Store.Tables) (search : CardSearch) : Except TableError (Option FoundCard) := do
  let words ← quotedWords (expression search.name.toList)
  match pick search.name (candidates tables (phrases words) search.scope) with
  | none => return none
  | some card => match search.scope with
    | .all => return some { card with sets := joinedCodes (setCodes tables card.name) }
    | .any | .code _ => return some card

end Lookup

/-- The card that a search finds in a store. A blank name is not searched for. -/
def Store.lookup (store : Store) (search : CardSearch) : Except StoreError (Option FoundCard) :=
  if (Lookup.expression search.name.toList).isEmpty then .ok none
  else match store.tables with
    | none => .error (.table (.noSuchTable Plan.base.table))
    | some tables => (Lookup.find tables search).mapError .table

theorem lookup_blank {store : Store} {search : CardSearch}
    (h : Text.words search.name.toList = []) : store.lookup search = .ok none := by
  simp [Store.lookup, Lookup.expression_eq_nil_iff.mpr h]

namespace Lookup

/-- The text of a card that has none. -/
def noText : String := " "

/-- A card that was found, as a line. The head is the picture when the card stands alone, else the
    name. -/
def line (template : String) (alone : Bool) (card : FoundCard) : String :=
  let head := if alone then Picture.address template card.multiverseId else card.name
  let text := if card.text = "" then noText else card.text
  head ++ " " ++ card.manaCost ++ " ```" ++ text ++ "``` " ++ card.sets

/-- The line for a card that was not found. -/
def notFoundLine : String := "Card Not Found!"

/-- The lines of several lookups (`render_lookups`). -/
def lines (template : String) (found : List (Option FoundCard)) : List String :=
  found.map fun
    | none => notFoundLine
    | some card => line template (found.length ≤ 1) card

end Lookup

end CardCensus
