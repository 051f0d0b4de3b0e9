import CardCensus.Settings
import CardCensus.Settings.Scalar

/-!
# The settings file

Every line gives one key its value, or is blank. A comment runs from `#` to the end of its line. A
key is a word or a text on one line; the keys are those of the settings, and each may be given once.
What is not given keeps its standard value.
-/

namespace CardCensus.Settings

/-- What a settings file may give. -/
inductive Key where
  | database
  | imageTemplate
  | deadline
  | strict
  | logLevel
  deriving Repr, DecidableEq

namespace Key

/-- Every key. -/
def all : List Key := [database, imageTemplate, deadline, strict, logLevel]

/-- The word for the key. -/
def word : Key → String
  | database => "database"
  | imageTemplate => "image_url"
  | deadline => "deadline_ms"
  | strict => "strict"
  | logLevel => "log_level"

/-- The key with the given word. -/
def ofWord? (word : String) : Option Key :=
  all.find? (·.word == word)

end Key

/-- The settings with a value for a key. A value of another kind is refused, and so is a negative
    deadline. -/
def assign? (settings : Settings) : Key → Scalar → Option Settings
  | .database, .text s => some { settings with database := s }
  | .imageTemplate, .text s => some { settings with imageTemplate := s }
  | .deadline, .integer n => if 0 ≤ n then some { settings with deadline := n.toNat } else none
  | .strict, .truth on => some { settings with strict := on }
  | .logLevel, .text s => some { settings with logLevel := s }
  | _, _ => none

/-- The character may stand in a key without quotes. -/
def isKeyChar (c : Char) : Bool :=
  c.isAlphanum || c == '_' || c == '-'

/-- A key. -/
def readKey : Reader String := fun s =>
  readLine s <|>
    (if (s.takeWhile isKeyChar).isEmpty then none
      else some (String.ofList (s.takeWhile isKeyChar), s.dropWhile isKeyChar))

/-- The rest behind a comment, if one comes next. -/
def skipComment : List Char → List Char
  | '#' :: rest => rest.dropWhile isPlain
  | s => s

/-- The rest behind the end of a line; the last line may end without a line break. -/
def endLine? (s : List Char) : Option (List Char) :=
  match skipComment (s.dropWhile isSpacing) with
  | [] => some []
  | rest => dropNewline? rest

/-- A line that gives a key its value, from its key on. -/
def readEntry : Reader (String × Scalar) := fun s => do
  let (word, rest) ← readKey s
  let '=' :: rest := rest.dropWhile isSpacing | none
  let (value, rest) ← readScalar (rest.dropWhile isSpacing)
  some ((word, value), ← endLine? rest)

/-- The entries of a file in order. Every line takes a character at least, so the length of the rest
    bounds their number. -/
def readEntries : Nat → List Char → Option (List (String × Scalar))
  | 0, s => if s.isEmpty then some [] else none
  | fuel + 1, s =>
    match s.dropWhile isSpacing with
    | [] => some []
    | line => match endLine? line with
      | some rest => readEntries fuel rest
      | none => do
        let (entry, rest) ← readEntry line
        (readEntries fuel rest).map (entry :: ·)

/-- The mark that a file may start with. -/
def byteOrderMark : Char := '\uFEFF'

/-- The text of a file without its mark. -/
def withoutMark : List Char → List Char
  | [] => []
  | c :: rest => if c = byteOrderMark then rest else c :: rest

/-- The settings with the entries of a file, none of whose words comes twice. -/
def assignAll? (settings : Settings) (entries : List (String × Scalar)) : Option Settings :=
  if (entries.map (·.1)).Nodup then
    entries.foldlM
      (fun settings (word, value) => (Key.ofWord? word).bind (settings.assign? · value)) settings
  else none

/-- The settings of a file. -/
def ofText? (text : String) : Option Settings := do
  let s := withoutMark text.toList
  assignAll? {} (← readEntries (s.length + 1) s)

/-- Why settings cannot be had. -/
inductive FileError where
  /-- The file cannot be got hold of. -/
  | unreadable (reason : String)
  /-- The file is no settings file. -/
  | invalid
  deriving Repr, DecidableEq

/-- The wording of an error. -/
def FileError.message : FileError → String
  | .unreadable reason => "cannot read config file: " ++ reason
  | .invalid => "invalid config file"

/-- The settings of a file (`from_toml_str`). -/
def ofText (text : String) : Except FileError Settings :=
  match ofText? text with
  | some settings => .ok settings
  | none => .error .invalid

end CardCensus.Settings
