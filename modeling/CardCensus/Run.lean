import CardCensus.Answer
import CardCensus.CommandLine
import CardCensus.Directory
import CardCensus.Import
import CardCensus.Settings.File

/-!
# A run of the program

A run takes arguments and an input, finds its settings and its store in a directory, and leaves the
directory and an output. The settings file comes first, then the options; an export is read as a
whole before the store is touched.

Results:
* `directory_of_error`: a run that fails leaves the directory as it was.
-/

namespace CardCensus

/-- Why a run fails. -/
inductive Failure where
  /-- The arguments make no sense. -/
  | arguments
  | settings (cause : Settings.FileError)
  | ingestion (cause : ImportError)
  /-- There is no store under the name. -/
  | database (name : String)

namespace Failure

/-- The wording of a failure. -/
def message : Failure → String
  | arguments => "the arguments make no sense"
  | settings cause => cause.message
  | ingestion cause => cause.message
  | database name => "cannot open " ++ name

/-- The code that a failed run ends with. -/
def code : Failure → Nat
  | arguments => 2
  | _ => 1

end Failure

/-- What a run leaves: the directory, and its output or why it failed. -/
structure Run where
  directory : Directory
  result : Except Failure String

/-- The code that a run ends with. -/
def Run.code (run : Run) : Nat :=
  match run.result with
  | .ok _ => 0
  | .error failure => failure.code

/-- The output of a run; one that fails has none. -/
def Run.output (run : Run) : String :=
  match run.result with
  | .ok output => output
  | .error _ => ""

namespace Directory

/-- Why a file that is not there cannot be read. -/
def missingReason : String := "No such file or directory (os error 2)"

/-- The settings in the file with the given name; without a name, the standard settings
    (`Config.load`). -/
def settings (directory : Directory) : Option String → Except Settings.FileError Settings
  | none => .ok {}
  | some name => match directory.text? name with
    | some text => Settings.ofText text
    | none => .error (.unreadable missingReason)

/-- The export in the file with the given name (`load_sets`). -/
def readExport (directory : Directory) (name : String) : Except ImportError Export :=
  match directory.text? name with
  | some text => Export.read text
  | none => .error (.unreadable missingReason)

end Directory

/-- The settings with the options of a run in their place. -/
def Options.applyTo (options : Options) (settings : Settings) : Settings where
  database := options.database.getD settings.database
  imageTemplate := settings.imageTemplate
  deadline := settings.deadline
  strict := options.strict || settings.strict
  logLevel := options.logLevel.getD settings.logLevel

/-- An answer on lines of its own. -/
def answerLine : Option String → String
  | none => ""
  | some answer => answer ++ "\n"

/-- A line of an input without the return that may end it. -/
def withoutReturn (line : List Char) : List Char :=
  match line.reverse with
  | '\r' :: rest => rest.reverse
  | _ => line

/-- The lines of an input. The last line may end without a line break. -/
def inputLines (input : String) : List String :=
  match (Text.pieces (· == '\n') input.toList).reverse with
  | [] => []
  | last :: ended =>
    (ended.reverse.map withoutReturn ++ [last].filter (!·.isEmpty)).map String.ofList

namespace Run

/-- The name of the program and its version. -/
def version : String := "cardstats 0.1.0\n"

/-- How the program is used. -/
def usage : String :=
  "Usage: cardstats [--config FILE] [--db FILE] [--strict] [--log-level LEVEL] COMMAND\n" ++
    "Commands: ingest EXPORT, ask MESSAGE, repl\n"

/-- A run over the store that the settings name (`open_store`). The store has its tables before it
    is asked anything. -/
def withStore (directory : Directory) (settings : Settings)
    (act : Store → Store × Except Failure String) : Run :=
  match Location.ofName? settings.database with
  | none => ⟨directory, .error (.database settings.database)⟩
  | some location => match directory.openStore? location with
    | none => ⟨directory, .error (.database settings.database)⟩
    | some store => match act store.migrate with
      | (_, .error failure) => ⟨directory, .error failure⟩
      | (after, .ok output) => ⟨directory.closeStore location after, .ok output⟩

/-- Takes an export into a store. -/
def ingest (sets : Export) (store : Store) : Store × Except Failure String :=
  let (after, taken) := store.take sets
  (after, match taken with
    | .ok _ => .ok ""
    | .error cause => .error (.ingestion cause))

/-- Answers messages from a store. -/
def answer (settings : Settings) (messages : List String) (store : Store) :
    Store × Except Failure String :=
  (store, .ok (String.join (messages.map fun message =>
    answerLine (Answer.respond store settings.forAnswers message))))

/-- A run of a command. -/
def perform (directory : Directory) (settings : Settings) (input : String) : Command → Run
  | .ingest name => match directory.readExport name with
    | .error cause => ⟨directory, .error (.ingestion cause)⟩
    | .ok sets => withStore directory settings (ingest sets)
  | .ask message => withStore directory settings (answer settings [message])
  | .repl => withStore directory settings (answer settings (inputLines input))

/-- What the arguments ask for, done in a directory. -/
def ofInvocation (directory : Directory) (input : String) : Invocation → Run
  | .rejected => ⟨directory, .error .arguments⟩
  | .version => ⟨directory, .ok version⟩
  | .help => ⟨directory, .ok usage⟩
  | .run options command => match directory.settings options.config with
    | .error cause => ⟨directory, .error (.settings cause)⟩
    | .ok settings => perform directory (options.applyTo settings) input command

/-- A run with the given arguments and input (`main`). -/
def ofArguments (directory : Directory) (arguments : List String) (input : String) : Run :=
  ofInvocation directory input (.ofArguments arguments)

theorem directory_withStore_of_error {directory : Directory} {settings : Settings}
    {act : Store → Store × Except Failure String} {failure : Failure}
    (h : (withStore directory settings act).result = .error failure) :
    (withStore directory settings act).directory = directory := by
  unfold withStore at h ⊢
  split <;> try rfl
  split <;> try rfl
  split <;> simp_all

theorem directory_of_error {directory : Directory} {arguments : List String} {input : String}
    {failure : Failure} (h : (ofArguments directory arguments input).result = .error failure) :
    (ofArguments directory arguments input).directory = directory := by
  unfold ofArguments at h ⊢
  cases hi : Invocation.ofArguments arguments with
  | rejected => rfl
  | version => rfl
  | help => rfl
  | run options command =>
    rw [hi] at h
    simp only [ofInvocation] at h ⊢
    split at h <;> try rfl
    cases command with
    | ingest name =>
      simp only [perform] at h ⊢
      split at h <;> try rfl
      exact directory_withStore_of_error h
    | ask message => exact directory_withStore_of_error h
    | repl => exact directory_withStore_of_error h

end Run

end CardCensus
