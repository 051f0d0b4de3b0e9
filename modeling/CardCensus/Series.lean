import CardCensus.Run

/-!
# Calls of the program, one after the other

A `Call` is one use of the program on the command line. It brings its settings and its export along
in files of fixed names, which it leaves behind, and the calls of a series share one directory.
-/

namespace CardCensus

/-- What a call of the program is for. -/
inductive Task where
  /-- To take the export in a document. -/
  | ingest (document : String)
  | ask (message : String)
  /-- To answer every line of an input. -/
  | repl (input : String)
  deriving Repr, DecidableEq

/-- One call of the program: the text of its settings file, if it brings one, its flags, and its
    task. -/
structure Call where
  config : Option String := none
  flags : List String := []
  task : Task
  deriving Repr, DecidableEq

namespace Task

/-- The name of the file that an export is brought along in. -/
def exportFile : String := "sets.json"

/-- The command for a task. -/
def command : Task → Command
  | ingest _ => .ingest exportFile
  | ask message => .ask message
  | repl _ => .repl

/-- The arguments that ask for a task. -/
def arguments : Task → List String
  | ingest _ => ["ingest", exportFile]
  | ask message => ["ask", "--", message]
  | repl _ => ["repl"]

/-- The input of a task. -/
def input : Task → String
  | repl input => input
  | _ => ""

/-- The files that a task brings along. -/
def files : Task → List (String × String)
  | ingest document => [(exportFile, document)]
  | _ => []

end Task

namespace Call

/-- The name of the file that settings are brought along in. -/
def settingsFile : String := "c.toml"

/-- The options that a call puts before its flags. -/
def settingsOption (call : Call) : List String :=
  if call.config.isSome then ["--config", settingsFile] else []

/-- The arguments of a call. -/
def arguments (call : Call) : List String :=
  call.settingsOption ++ call.flags ++ call.task.arguments

/-- The files that a call brings along, by name. -/
def files (call : Call) : List (String × String) :=
  (call.config.map (settingsFile, ·)).toList ++ call.task.files

/-- The directory with the files that a call brings along. -/
def prepare (call : Call) (directory : Directory) : Directory :=
  call.files.foldl (fun directory (name, text) => directory.put [name] (.text text)) directory

/-- The run of a call. -/
def run (call : Call) (directory : Directory) : Run :=
  .ofArguments (call.prepare directory) call.arguments call.task.input

end Call

namespace Series

/-- The directory after calls, one after the other. -/
def after (directory : Directory) (calls : List Call) : Directory :=
  calls.foldl (fun directory call => (call.run directory).directory) directory

/-- The code and the output of a run. -/
def reply (run : Run) : Nat × String :=
  (run.code, run.output)

/-- What calls, one after the other, end with and print. -/
def replies (directory : Directory) : List Call → List (Nat × String)
  | [] => []
  | call :: rest => reply (call.run directory) :: replies (call.run directory).directory rest

end Series

end CardCensus
