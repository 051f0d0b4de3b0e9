/-!
# Arguments of the program

Options come before the command and the command's operand behind it. An option is given at most
once. A value stands behind its option as an argument of its own, which is no option, or in the same
argument. Behind `--` every argument is an operand.

Results:
* `set?_twice`: an option that has a value takes no other.
-/

namespace CardCensus

/-- What the program is to do. -/
inductive Command where
  /-- Takes the export in a file into the store. -/
  | ingest (file : String)
  /-- Answers a message. -/
  | ask (message : String)
  /-- Answers every line of the input. -/
  | repl
  deriving Repr, DecidableEq

/-- The options of a run. -/
structure Options where
  config : Option String := none
  database : Option String := none
  strict : Bool := false
  logLevel : Option String := none
  deriving Repr, DecidableEq, Inhabited

/-- What the arguments ask for. -/
inductive Invocation where
  | run (options : Options) (command : Command)
  /-- To show the version. -/
  | version
  /-- To show how the program is used. -/
  | help
  /-- The arguments make no sense. -/
  | rejected
  deriving Repr, DecidableEq

/-- An option that takes a value. -/
inductive ValueOption where
  | config
  | database
  | logLevel
  deriving Repr, DecidableEq

namespace ValueOption

/-- Every option that takes a value. -/
def all : List ValueOption := [config, database, logLevel]

/-- The word for the option. -/
def word : ValueOption → String
  | config => "config"
  | database => "db"
  | logLevel => "log-level"

/-- The letter for the option. -/
def letter? : ValueOption → Option Char
  | config => some 'c'
  | _ => none

end ValueOption

namespace Options

/-- The value of an option, unless it has one. -/
def once (old : Option String) (value : String) : Option (Option String) :=
  if old.isSome then none else some (some value)

/-- A path as the value of an option, unless it has one. A path is not empty. -/
def oncePath (old : Option String) (value : String) : Option (Option String) :=
  if value.isEmpty then none else once old value

/-- The options with a value for one of them. -/
def set? (options : Options) : ValueOption → String → Option Options
  | .config, value => (oncePath options.config value).map fun config => { options with config }
  | .database, value =>
    (oncePath options.database value).map fun database => { options with database }
  | .logLevel, value => (once options.logLevel value).map fun logLevel => { options with logLevel }

/-- The options with the strict mode on, unless it is. -/
def setStrict? (options : Options) : Option Options :=
  if options.strict then none else some { options with strict := true }

theorem set?_twice {options after : Options} {option : ValueOption} {value : String}
    (h : options.set? option value = some after) (other : String) :
    after.set? option other = none := by
  cases option <;> simp only [set?, oncePath, once, Option.map_eq_some_iff] at h ⊢ <;>
    obtain ⟨x, hx, rfl⟩ := h <;> grind

end Options

/-- An argument on its own. -/
inductive Argument where
  /-- The mark behind which there are operands only. -/
  | operandMark
  /-- An option by its word, with the value behind an equals sign. -/
  | long (word : String) (value : Option String)
  /-- An option by its letter, with what follows the letter. -/
  | short (letter : Char) (rest : List Char)
  | operand (text : String)
  deriving Repr, DecidableEq

namespace Argument

/-- A word and the value behind an equals sign. -/
def longOf (s : List Char) : Argument :=
  let word := s.takeWhile (· != '=')
  let value := match s.dropWhile (· != '=') with
    | [] => none
    | _ :: value => some (String.ofList value)
  long (String.ofList word) value

/-- The argument that a text is. -/
def ofText (text : String) : Argument :=
  match text.toList with
  | ['-', '-'] => operandMark
  | '-' :: '-' :: rest => longOf rest
  | '-' :: letter :: rest => short letter rest
  | _ => operand text

end Argument

namespace Invocation

/-- The operands of a command, or what else the arguments behind it ask for. -/
inductive Operands where
  | found (operands : List String)
  | help
  | rejected
  deriving Repr, DecidableEq

/-- The operands among the arguments behind a command that takes at most `limit` of them. -/
def readOperands (limit : Nat) : List String → Operands
  | [] => .found []
  | text :: rest => match Argument.ofText text with
    | .operandMark => if rest.length ≤ limit then .found rest else .rejected
    | .long word value => if word = "help" ∧ value = none then .help else .rejected
    | .short letter _ => if letter = 'h' then .help else .rejected
    | .operand operand =>
      match limit with
      | 0 => .rejected
      | limit + 1 => match readOperands limit rest with
        | .found operands => .found (operand :: operands)
        | other => other

/-- A command with at most one operand. -/
def withOperand (limit : Nat) (arguments : List String) (command? : Option String → Option Command)
    (options : Options) : Invocation :=
  match readOperands limit arguments with
  | .help => help
  | .rejected => rejected
  | .found operands => match command? operands.head? with
    | some command => run options command
    | none => rejected

/-- An operand that is a path. -/
def ingest? : Option String → Option Command
  | some file => if file.isEmpty then none else some (.ingest file)
  | none => none

/-- A command with the arguments behind it. -/
def readCommand (options : Options) (word : String) (arguments : List String) : Invocation :=
  if word = "ingest" then withOperand 1 arguments ingest? options
  else if word = "ask" then withOperand 1 arguments (·.map Command.ask) options
  else if word = "repl" then withOperand 0 arguments (fun _ => some .repl) options
  else if word = "help" then help
  else rejected

/-- An option whose value is in the same argument, or whose value is still to come. -/
inductive Step where
  | done (options : Options)
  | awaiting (option : ValueOption)
  | finished (invocation : Invocation)
  deriving Repr, DecidableEq

/-- An option with a value, if the value is acceptable. -/
def stepOfSet (options : Options) (option : ValueOption) (value : String) : Step :=
  match options.set? option value with
  | some options => .done options
  | none => .finished rejected

/-- An option that is given by its word. -/
def stepLong (options : Options) (word : String) (value : Option String) : Step :=
  match ValueOption.all.find? (·.word == word), value with
  | some option, some value => stepOfSet options option value
  | some option, none => .awaiting option
  | none, some _ => .finished rejected
  | none, none =>
    if word = "strict" then match options.setStrict? with
      | some options => .done options
      | none => .finished rejected
    else if word = "version" then .finished version
    else if word = "help" then .finished help
    else .finished rejected

/-- The value in the same argument as the letter of its option. -/
def attachedValue : List Char → Option String
  | [] => none
  | '=' :: value => some (String.ofList value)
  | value => some (String.ofList value)

/-- An option that is given by its letter. -/
def stepShort (options : Options) (letter : Char) (rest : List Char) : Step :=
  match ValueOption.all.find? (·.letter? == some letter), attachedValue rest with
  | some option, some value => stepOfSet options option value
  | some option, none => .awaiting option
  | none, _ =>
    if letter = 'V' then .finished version
    else if letter = 'h' then .finished help
    else .finished rejected

/-- What the arguments ask for, with the options before them and perhaps an option that awaits its
    value. -/
def read (options : Options) (awaiting : Option ValueOption) : List String → Invocation
  | [] => rejected
  | text :: rest =>
    match Argument.ofText text, awaiting with
    | .operand value, some option => match options.set? option value with
      | some options => read options none rest
      | none => rejected
    | .operand word, none => readCommand options word rest
    | _, some _ => rejected
    | .operandMark, none => rejected
    | .long word value, none => match stepLong options word value with
      | .done options => read options none rest
      | .awaiting option => read options (some option) rest
      | .finished invocation => invocation
    | .short letter attached, none => match stepShort options letter attached with
      | .done options => read options none rest
      | .awaiting option => read options (some option) rest
      | .finished invocation => invocation

/-- What the arguments of the program ask for. -/
def ofArguments (arguments : List String) : Invocation :=
  read {} none arguments

end Invocation

end CardCensus
