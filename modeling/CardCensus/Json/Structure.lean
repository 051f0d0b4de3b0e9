import CardCensus.Json.Lexeme

/-!
# Lists, objects and values of a document

A list or an object is read element by element. A fault about data inside it is settled at the place
where the list or object could be closed. `readValue` reads any value, down to a number of levels.
-/

namespace CardCensus.Json

/-! ## Lists -/

/-- The rest at the next element of a list, or nothing at the end of the list. -/
def nextElement (first : Bool) (rest : List Char) : Except Fault (Option (List Char)) :=
  match skipSpace rest with
  | [] => .error (.here .endInList [])
  | ']' :: _ => .ok none
  | c :: s =>
    if first then .ok (some (c :: s))
    else if c ≠ ',' then .error (.next .expectedListCommaOrEnd (c :: s))
    else match skipSpace s with
      | [] => .error (.here .endInValue [])
      | ']' :: s => .error (.next .trailingComma (']' :: s))
      | s => .ok (some s)

/-- The rest behind the end of a list. -/
def closeList (rest : List Char) : Except Fault (List Char) :=
  match skipSpace rest with
  | [] => .error (.here .endInList [])
  | ']' :: s => .ok s
  | ',' :: s => match skipSpace s with
    | ']' :: s => .error (.next .trailingComma (']' :: s))
    | s => .error (.next .trailingCharacters s)
  | s => .error (.next .trailingCharacters s)

/-- How far the end of a list is looked for when it may not be there. -/
def tryCloseList (rest : List Char) : List Char :=
  match skipSpace rest with
  | ']' :: s => s
  | ',' :: s => skipSpace s
  | s => s

/-- The elements of a list up to its end. Every element takes a character at least, so the length of
    the rest bounds their number. -/
def readElements {α : Type} (item : Reader α) : Nat → Bool → Reader (List α)
  | 0, _, _ => .error (.here .endInList [])
  | fuel + 1, first, rest => do
    match ← nextElement first rest with
    | none => return ([], rest)
    | some s =>
      let (x, s) ← item s
      let (xs, s) ← readElements item fuel false s
      return (x :: xs, s)

/-- A list from behind its bracket. -/
def readListBody {α : Type} (item : Reader α) : Reader (List α) := fun rest =>
  match readElements item (rest.length + 1) true rest with
  | .error fault => .error (fault.settle tryCloseList)
  | .ok (xs, rest) => (closeList rest).map fun rest => (xs, rest)

/-! ## Objects -/

/-- The rest behind the quote that opens a key. -/
def openKey (rest : List Char) : Except Fault (Option (List Char)) :=
  match rest with
  | [] => .error (.here .endInValue [])
  | c :: s =>
    if c = '"' then .ok (some s)
    else if c = '\x7d' then .error (.next .trailingComma (c :: s))
    else .error (.next .keyMustBeString (c :: s))

/-- The rest behind the quote of the next key of an object, or nothing at the end of the object. -/
def nextKey (first : Bool) (rest : List Char) : Except Fault (Option (List Char)) :=
  match skipSpace rest with
  | [] => .error (.here .endInObject [])
  | c :: s =>
    if c = '\x7d' then .ok none
    else if first then openKey (c :: s)
    else if c = ',' then openKey (skipSpace s)
    else .error (.next .expectedObjectCommaOrEnd (c :: s))

/-- The rest behind the colon of a key. -/
def skipColon (rest : List Char) : Except Fault (List Char) :=
  match skipSpace rest with
  | [] => .error (.here .endInObject [])
  | c :: s => if c = ':' then .ok s else .error (.next .expectedColon (c :: s))

/-- The rest behind the end of an object. -/
def closeObject (rest : List Char) : Except Fault (List Char) :=
  match skipSpace rest with
  | [] => .error (.here .endInObject [])
  | c :: s =>
    if c = '\x7d' then .ok s
    else if c = ',' then .error (.next .trailingComma (c :: s))
    else .error (.next .trailingCharacters (c :: s))

/-- How far the end of an object is looked for when it may not be there. -/
def tryCloseObject (rest : List Char) : List Char :=
  match skipSpace rest with
  | [] => []
  | c :: s => if c = '\x7d' then s else c :: s

/-- The entries of an object up to its end, each taken up into a state. Every entry takes a
    character at least, so the length of the rest bounds their number. -/
def readEntries {σ : Type} (step : σ → String → Reader σ) : Nat → Bool → σ → Reader σ
  | 0, _, _, _ => .error (.here .endInObject [])
  | fuel + 1, first, state, rest => do
    match ← nextKey first rest with
    | none => return (state, rest)
    | some s =>
      let (key, s) ← readString s
      let (state, s) ← step state key s
      readEntries step fuel false state s

/-- An object from behind its brace. The state at its end may still be found wanting. -/
def readObjectBody {σ : Type} (step : σ → String → Reader σ) (start : σ) (lack : σ → Option Cause) :
    Reader σ := fun rest =>
  let body : Except Fault (σ × List Char) := do
    let (state, rest) ← readEntries step (rest.length + 1) true start rest
    match lack state with
    | some cause => throw (.unsettled cause rest)
    | none => return (state, rest)
  match body with
  | .error fault => .error (fault.settle tryCloseObject)
  | .ok (state, rest) => (closeObject rest).map fun rest => (state, rest)

/-! ## Values -/

/-- The fault of a value of another kind than expected, behind white space. The value is read as far
    as it takes to say what it is. -/
def wrongKind (expected : String) (s : List Char) : Fault :=
  let word (letters : List Char) (found : Found) (rest : List Char) : Fault :=
    match skipLetters letters rest with
    | .error fault => fault
    | .ok rest => .here (.wrongKind found expected) rest
  match s with
  | [] => .here .expectedValue []
  | c :: rest =>
    if c = 'n' then word "ull".toList .null rest
    else if c = 't' then word "rue".toList (.boolean true) rest
    else if c = 'f' then word "alse".toList (.boolean false) rest
    else if c = '-' || c.isDigit then match readNumber s with
      | .error fault => fault
      | .ok (.integer n, rest) => .here (.wrongKind (.integer n) expected) rest
      | .ok (.real x, rest) => .here (.wrongKind (.real x) expected) rest
    else if c = '"' then match readString rest with
      | .error fault => fault
      | .ok (text, rest) => .here (.wrongKind (.string text) expected) rest
    else if c = '[' then .here (.wrongKind .sequence expected) s
    else if c = '\x7b' then .here (.wrongKind .map expected) s
    else .next .expectedValue s

/-- Any value. -/
inductive Tree where
  | null
  | boolean (value : Bool)
  | number (value : Numeral)
  | string (text : String)
  | list (items : List Tree)
  | object (entries : List (String × Tree))
  deriving Inhabited

/-- A word that stands for a value, behind its first letter. -/
def readWord (letters : List Char) (value : Tree) : Reader Tree := fun rest =>
  (skipLetters letters rest).map fun rest => (value, rest)

/-- Any value, with at most `depth` levels of lists and objects less one. -/
def readValue : Nat → Reader Tree := fun depth rest =>
  match skipSpace rest with
  | [] => .error (.here .endInValue [])
  | c :: s =>
    if c = 'n' then readWord "ull".toList .null s
    else if c = 't' then readWord "rue".toList (.boolean true) s
    else if c = 'f' then readWord "alse".toList (.boolean false) s
    else if c = '-' || c.isDigit then (readNumber (c :: s)).map fun (n, s) => (.number n, s)
    else if c = '"' then (readString s).map fun (text, s) => (.string text, s)
    else if c = '[' then match depth with
      | inner + 2 => (readListBody (readValue (inner + 1)) s).map fun (items, s) => (.list items, s)
      | _ => .error (.next .recursionLimit (c :: s))
    else if c = '\x7b' then match depth with
      | inner + 2 =>
        let step (entries : List (String × Tree)) (key : String) : Reader (List (String × Tree)) :=
          fun s => do
          let (value, s) ← readValue (inner + 1) (← skipColon s)
          return ((key, value) :: entries, s)
        (readObjectBody step [] (fun _ => none) s).map fun (entries, s) =>
          (.object entries.reverse, s)
      | _ => .error (.next .recursionLimit (c :: s))
    else .error (.next .expectedValue (c :: s))

/-- A string. -/
def readText : Reader String := fun rest =>
  match skipSpace rest with
  | [] => .error (.here .endInValue [])
  | c :: s => if c = '"' then readString s else .error (wrongKind "a string" (c :: s))

/-- A number as a double. -/
def readReal : Reader Float := fun rest =>
  match skipSpace rest with
  | [] => .error (.here .endInValue [])
  | c :: s =>
    if c = '-' || c.isDigit then (readNumber (c :: s)).map fun (number, s) =>
      match number with
      | .integer n => (.ofInt n, s)
      | .real x => (x, s)
    else .error (wrongKind "f64" (c :: s))

/-- A list of values of one kind. -/
def readList {α : Type} (item : Reader α) : Reader (List α) := fun rest =>
  match skipSpace rest with
  | [] => .error (.here .endInValue [])
  | c :: s => if c = '[' then readListBody item s else .error (wrongKind "a sequence" (c :: s))

end CardCensus.Json
