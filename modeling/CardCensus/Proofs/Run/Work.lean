import CardCensus.Proofs.CommandLine.Flags

/-!
# What a call is about

A run reads its settings, its export and its messages before it opens a store. What it then does,
its `Work`, depends on the directory through these files alone, and a call brings its own along. So
the work of a call can be told from the call, unless its flags name for the settings a file that
some other call brought.

Results:
* `run_ofInvocation`: a run reads first and then does its work.
* `run_eq`: the work of a call does not depend on what other calls left.
-/

namespace CardCensus

/-- What a run does once everything but the store has been read. -/
inductive Work where
  /-- There is nothing more to do. -/
  | finished (result : Except Failure String)
  | take (settings : Settings) (sets : Export)
  | answer (settings : Settings) (messages : List String)

namespace Work

/-! ## Reading first -/

/-- The work of a command. -/
def ofCommand (directory : Directory) (settings : Settings) (input : String) : Command → Work
  | .ingest name => match directory.readExport name with
    | .error cause => finished (.error (.ingestion cause))
    | .ok sets => take settings sets
  | .ask message => answer settings [message]
  | .repl => answer settings (inputLines input)

/-- The work that is asked for. -/
def ofInvocation (directory : Directory) (input : String) : Invocation → Work
  | .rejected => finished (.error .arguments)
  | .version => finished (.ok Run.version)
  | .help => finished (.ok Run.usage)
  | .run options command => match directory.settings options.config with
    | .error cause => finished (.error (.settings cause))
    | .ok settings => ofCommand directory (options.applyTo settings) input command

/-- The work done in a directory. -/
def run (directory : Directory) : Work → Run
  | finished result => ⟨directory, result⟩
  | take settings sets => .withStore directory settings (Run.ingest sets)
  | answer settings messages => .withStore directory settings (Run.answer settings messages)

/-- Where the store lies that is opened, if there can be one. -/
def location? : Work → Option Location
  | finished _ => none
  | take settings _ => Location.ofName? settings.database
  | answer settings _ => Location.ofName? settings.database

/-- The export that is taken into the store. -/
def export? : Work → Option Export
  | take _ sets => some sets
  | _ => none

theorem run_ofInvocation (directory : Directory) (input : String) (invocation : Invocation) :
    (ofInvocation directory input invocation).run directory =
      Run.ofInvocation directory input invocation := by
  cases invocation with
  | rejected | version | help => rfl
  | run options command =>
    simp only [ofInvocation, Run.ofInvocation]
    cases directory.settings options.config with
    | error cause => rfl
    | ok settings =>
      cases command with
      | ask message => rfl
      | repl => rfl
      | ingest name =>
        simp only [ofCommand, Run.perform]
        cases directory.readExport name <;> rfl

/-- Where a store is opened, a command is run under settings that have been read. -/
theorem exists_of_location? {directory : Directory} {input : String} {invocation : Invocation}
    {location : Location}
    (h : (ofInvocation directory input invocation).location? = some location) :
    ∃ options command settings, invocation = .run options command ∧
      directory.settings options.config = .ok settings ∧
      ofInvocation directory input invocation =
        ofCommand directory (options.applyTo settings) input command ∧
      Location.ofName? (options.applyTo settings).database = some location := by
  cases invocation with
  | rejected | version | help => cases h
  | run options command =>
    simp only [ofInvocation] at h ⊢
    cases hsettings : directory.settings options.config with
    | error cause =>
      rw [hsettings] at h
      cases h
    | ok settings =>
      simp only [hsettings] at h ⊢
      refine ⟨options, command, settings, rfl, hsettings, rfl, ?_⟩
      cases command with
      | ask | repl => exact h
      | ingest name =>
        simp only [ofCommand] at h
        cases hread : directory.readExport name with
        | error cause =>
          rw [hread] at h
          cases h
        | ok sets =>
          rw [hread] at h
          exact h

/-- The work depends on the texts of two files only. -/
theorem ofInvocation_congr {first second : Directory} (input : String) {invocation : Invocation}
    (hconfig : ∀ options command, invocation = .run options command →
      ∀ name ∈ options.config, first.text? name = second.text? name)
    (hexport : ∀ options name, invocation = .run options (.ingest name) →
      first.text? name = second.text? name) :
    ofInvocation first input invocation = ofInvocation second input invocation := by
  cases invocation with
  | rejected | version | help => rfl
  | run options command =>
    have hsettings : first.settings options.config = second.settings options.config := by
      cases hname : options.config with
      | none => rfl
      | some name =>
        rw [Directory.settings, Directory.settings, hconfig options command rfl name hname]
    have hcommand : ∀ settings, ofCommand first settings input command =
        ofCommand second settings input command := by
      intro settings
      cases command with
      | ask message => rfl
      | repl => rfl
      | ingest name =>
        rw [ofCommand, ofCommand, Directory.readExport, Directory.readExport,
          hexport options name rfl]
    simp only [ofInvocation, hsettings, hcommand]

end Work

namespace Call

/-! ## The files of a call -/

/-- The paths that calls bring files along to. -/
def sharedPaths : List Path := [[settingsFile], [Task.exportFile]]

/-- The paths that a call brings files along to. -/
def paths (call : Call) : List Path :=
  call.files.map fun file => [file.1]

/-- What a call is about, as told from the files that it brings along. -/
def work (call : Call) : Work :=
  .ofInvocation (call.prepare {}) call.task.input (.ofArguments call.arguments)

/-- The settings of a call are not in a file that only other calls bring along. -/
def OwnSettings (call : Call) : Prop :=
  ∀ options command, Invocation.ofArguments call.arguments = .run options command →
    ∀ name ∈ options.config, ∀ path ∈ Path.ofText? name, path ∈ sharedPaths → path ∈ call.paths

/-- The store of a call is not in a file that calls bring along. -/
def OwnStore (call : Call) : Prop :=
  ∀ path, call.work.location? = some (.file path) → path ∉ sharedPaths

/-- Nothing but the files that calls bring along is a text. -/
def TextsShared (directory : Directory) : Prop :=
  ∀ path ∉ sharedPaths, ∀ text, directory.find? path ≠ some (.text text)

/-! ## What a call finds -/

theorem folders_prepare (call : Call) (directory : Directory) :
    (call.prepare directory).folders = directory.folders := by
  rw [prepare]
  generalize call.files = files
  induction files generalizing directory with
  | nil => rfl
  | cons file rest ih => exact ih _

/-- A call finds the same file in two directories when it brings that file along itself, or when
    they have it in common. -/
theorem find?_prepare_congr {call : Call} {path : Path} {first second : Directory}
    (h : path ∈ call.paths ∨ first.find? path = second.find? path) :
    (call.prepare first).find? path = (call.prepare second).find? path := by
  rw [prepare, prepare]
  rw [paths] at h
  generalize call.files = files at h
  induction files generalizing first second with
  | nil => exact h.resolve_left List.not_mem_nil
  | cons file rest ih =>
    rw [List.foldl_cons, List.foldl_cons]
    refine ih ?_
    by_cases hpath : path = [file.1]
    · rw [hpath, Directory.find?_put, Directory.find?_put]
      exact Or.inr rfl
    · rw [Directory.find?_put_of_ne _ hpath, Directory.find?_put_of_ne _ hpath]
      rw [List.map_cons, List.mem_cons] at h
      exact h.imp_left fun hmem => hmem.resolve_left hpath

/-- A call leaves every file that it does not bring along as it finds it. -/
theorem find?_prepare {call : Call} {path : Path} (h : path ∉ call.paths) (directory : Directory) :
    (call.prepare directory).find? path = directory.find? path := by
  rw [prepare]
  rw [paths] at h
  generalize call.files = files at h
  induction files generalizing directory with
  | nil => rfl
  | cons file rest ih =>
    rw [List.map_cons, List.mem_cons, not_or] at h
    rw [List.foldl_cons, ih _ h.2, Directory.find?_put_of_ne _ h.1]

theorem paths_subset (call : Call) : call.paths ⊆ sharedPaths := by
  obtain ⟨config, flags, task⟩ := call
  cases config <;> cases task <;> simp [paths, files, Task.files, sharedPaths]

/-- A call finds no text that it does not bring along, where only such texts are that some call
    brings along. -/
theorem text?_prepare {call : Call} {directory : Directory} (htexts : TextsShared directory)
    {name : String}
    (hname : ∀ path ∈ Path.ofText? name, path ∈ sharedPaths → path ∈ call.paths) :
    (call.prepare directory).text? name = (call.prepare {}).text? name := by
  rw [Directory.text?, Directory.text?]
  cases hpath : Path.ofText? name with
  | none => rfl
  | some path =>
    by_cases hown : path ∈ call.paths
    · exact congrArg (Option.bind · _) (find?_prepare_congr (Or.inl hown))
    · have hnew : (call.prepare {}).find? path = none := find?_prepare hown {}
      have hold := find?_prepare hown directory
      have htext := htexts path fun hshared => hown (hname path hpath hshared)
      simp only [Option.bind_eq_bind, Option.bind_some, hnew, hold, Option.bind_none]
      cases hfile : directory.find? path with
      | none => rfl
      | some file => cases file with
        | text text => exact absurd hfile (htext text)
        | store tables => rfl

/-- Flags leave a task its command, if there is one, except that they may take the word for `repl`
    as an operand. -/
theorem command_eq {call : Call} {options : Options} {command : Command}
    (h : Invocation.ofArguments call.arguments = .run options command) :
    command = call.task.command ∨
      call.task.arguments = ["repl"] ∧ (command = .ask "repl" ∨ command = .ingest "repl") := by
  rw [arguments] at h
  cases Invocation.flagsKind (call.settingsOption ++ call.flags) with
  | options _ hrun =>
    rw [hrun, Invocation.run.injEq] at h
    exact Or.inl h.2.symm
  | idle invocation hidle hrun =>
    rw [hrun] at h
    rw [h] at hidle
    exact absurd trivial hidle
  | command hrun =>
    obtain hrejected | ⟨hrepl, _, hask | hingest⟩ := hrun call.task
    · rw [hrejected] at h
      cases h
    · rw [hask, Invocation.run.injEq] at h
      exact Or.inr ⟨hrepl, Or.inl h.2.symm⟩
    · rw [hingest, Invocation.run.injEq] at h
      exact Or.inr ⟨hrepl, Or.inr h.2.symm⟩

/-- An export is read from where the call brings it along, or else there is none to read. -/
theorem name_of_ingest {call : Call} {options : Options} {name : String}
    (h : Invocation.ofArguments call.arguments = .run options (.ingest name)) :
    (∃ document, call.task = .ingest document ∧ name = Task.exportFile) ∨ name = "repl" := by
  rcases command_eq h with hcommand | ⟨-, hask | hingest⟩
  · cases htask : call.task with
    | ingest document =>
      rw [htask] at hcommand
      exact Or.inl ⟨document, rfl, Command.ingest.inj hcommand⟩
    | ask | repl =>
      rw [htask] at hcommand
      cases hcommand
  · cases hask
  · exact Or.inr (Command.ingest.inj hingest)

theorem ofText?_exportFile : Path.ofText? Task.exportFile = some [Task.exportFile] := by
  decide +kernel

theorem ofText?_repl : Path.ofText? "repl" = some ["repl"] := by
  decide +kernel

theorem paths_of_ingest {call : Call} {options : Options} {name : String}
    (h : Invocation.ofArguments call.arguments = .run options (.ingest name)) :
    ∀ path ∈ Path.ofText? name, path ∈ sharedPaths → path ∈ call.paths := by
  intro path hpath hshared
  rcases name_of_ingest h with ⟨document, htask, rfl⟩ | rfl
  · rw [ofText?_exportFile] at hpath
    obtain rfl := Option.mem_some.mp hpath
    simp [paths, files, htask, Task.files]
  · rw [ofText?_repl] at hpath
    obtain rfl := Option.mem_some.mp hpath
    exact absurd hshared (by decide)

/-- **Main lemma.** The work of a call does not depend on what other calls left. -/
theorem run_eq {call : Call} (hcall : call.OwnSettings) {directory : Directory}
    (htexts : TextsShared directory) :
    call.run directory = call.work.run (call.prepare directory) := by
  have hwork :
      call.work = .ofInvocation (call.prepare directory) call.task.input
        (.ofArguments call.arguments) :=
    (Work.ofInvocation_congr call.task.input
      (fun options command hrun name hname =>
        text?_prepare htexts (hcall options command hrun name hname))
      (fun options name hrun => text?_prepare htexts (paths_of_ingest hrun))).symm
  rw [hwork, Work.run_ofInvocation]
  rfl

/-! ## The export of a call -/

/-- The export that a call brings along to be taken. -/
def export? (call : Call) : Option Export :=
  match call.task with
  | .ingest document => (Export.read document).toOption
  | _ => none

/-- The task is to answer something. -/
def Asks (call : Call) : Prop :=
  ∀ document, call.task ≠ .ingest document

theorem export?_of_asks {call : Call} (h : call.Asks) : call.export? = none := by
  unfold export?
  split
  · rename_i document htask
    exact absurd htask (h document)
  · rfl

theorem readExport_prepare {call : Call} {document : String}
    (htask : call.task = .ingest document) :
    (call.prepare {}).readExport Task.exportFile = Export.read document := by
  have hfind : (call.prepare {}).find? [Task.exportFile] = some (.text document) := by
    rw [prepare, files, htask, Task.files, List.foldl_append]
    exact Directory.find?_put _ _ _
  rw [Directory.readExport, Directory.text?, ofText?_exportFile, Option.bind_eq_bind,
    Option.bind_some, hfind]
  rfl

theorem readExport_prepare_repl (call : Call) :
    (call.prepare {}).readExport "repl" = .error (.unreadable Directory.missingReason) := by
  have hnot : ["repl"] ∉ call.paths := fun hmem => absurd (call.paths_subset hmem) (by decide)
  rw [Directory.readExport, Directory.text?, ofText?_repl, Option.bind_eq_bind, Option.bind_some,
    find?_prepare hnot]
  rfl

/-- An export is only taken where a call brings one along. -/
theorem asks_of_command {call : Call} {options : Options} {command : Command}
    (hrun : Invocation.ofArguments call.arguments = .run options command)
    (hcommand : ∀ name, command ≠ .ingest name) : call.Asks := by
  intro document htask
  rcases command_eq hrun with hsame | ⟨hrepl, -⟩
  · rw [htask] at hsame
    exact hcommand Task.exportFile hsame
  · rw [htask] at hrepl
    cases congrArg List.length hrepl

/-- Where a store is opened, the export that is taken is the one of the call, if it has one. -/
theorem export?_work {call : Call} {location : Location} (h : call.work.location? = some location) :
    call.work.export? = call.export? := by
  obtain ⟨options, command, settings, hrun, -, hwork, -⟩ := Work.exists_of_location? h
  have hcall :
      call.work = .ofCommand (call.prepare {}) (options.applyTo settings) call.task.input command :=
        hwork
  rw [hcall] at h ⊢
  cases command with
  | ask | repl =>
    rw [export?_of_asks (asks_of_command hrun fun _ => nofun)]
    rfl
  | ingest name =>
    rw [Work.ofCommand] at h ⊢
    rcases name_of_ingest hrun with ⟨document, htask, rfl⟩ | rfl
    · rw [readExport_prepare htask] at h ⊢
      simp only [export?, htask]
      cases hread : Export.read document with
      | error cause =>
        rw [hread] at h
        cases h
      | ok sets => rfl
    · rw [readExport_prepare_repl] at h
      cases h

end Call

end CardCensus
