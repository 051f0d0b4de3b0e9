import CardCensus.Run
import CardCensus.Store.Snapshot

/-!
# The program

Reads the files that a run may touch into a directory, runs, and writes the store back. A store is
kept in its file as a snapshot.
-/

namespace CardCensus

/-- What a file holds, as far as it can be read. -/
def File.ofText (text : String) : File :=
  match Store.Snapshot.read? text with
  | some tables => .store tables
  | none => .text text

/-- The directory with the file of the given name and path, if it is there. Its folder counts as
    there: without it the store cannot be written. -/
def load (directory : Directory) (name : String) (path : Option Path) : IO Directory := do
  match path with
  | none => return directory
  | some path =>
    let directory := { directory with folders := path.folder :: directory.folders }
    match ← (IO.FS.readFile name).toBaseIO with
    | .ok text => return directory.put path (.ofText text)
    | .error _ => return directory

/-- The names of the files that an invocation reads before its store. -/
def inputNames : Invocation → List String
  | .run options (.ingest name) => options.config.toList ++ [name]
  | .run options _ => options.config.toList
  | _ => []

/-- The text of the path of the store of an invocation. -/
def storePath? (directory : Directory) : Invocation → Option String
  | .run options _ => match directory.settings options.config with
    | .ok settings => Location.pathText? (options.applyTo settings).database
    | .error _ => none
  | _ => none

/-- Whether an invocation reads the input. -/
def readsInput : Invocation → Bool
  | .run _ .repl => true
  | _ => false

/-- Writes the store of a run back to its file. -/
def save (directory : Directory) (name : String) : IO Unit := do
  match (Path.resolved? name).bind directory.find? with
  | some (.store tables) => IO.FS.writeFile name (Store.Snapshot.write tables)
  | _ => return

/-- Runs with the given arguments. -/
def runProgram (arguments : List String) : IO UInt32 := do
  let invocation := Invocation.ofArguments arguments
  let directory ← (inputNames invocation).foldlM
    (fun directory name => load directory name (Path.ofText? name)) {}
  let name := (storePath? directory invocation).getD ""
  let directory ← load directory name (Path.resolved? name)
  let input ← if readsInput invocation then (← IO.getStdin).readToEnd else pure ""
  let run := Run.ofInvocation directory input invocation
  match run.result with
  | .ok output =>
    save run.directory name
    IO.print output
  | .error failure => IO.eprintln failure.message
  return UInt32.ofNat run.code

end CardCensus

/-- The program. -/
def main (arguments : List String) : IO UInt32 :=
  CardCensus.runProgram arguments
