import CardCensus.Proofs.Run.Kept

/-!
# Answers line by line

A call that answers the lines of an input prints what calls print that ask for the lines one by one.
The flags are the same for both tasks, but what they say need not be: behind the name of a command,
the word for the first task is an operand, where the arguments of the second are too many. Then
neither prints anything. Only the version and the help are shown once however many lines there are.

Results:
* `printed_answers`: messages are answered one by one.
* `printed_repl`: the lines of an input are answered one by one.
* `OwnSettings.asking`, `OwnStore.asking`: calls that ask for single lines keep to the same files.
-/

namespace CardCensus

namespace Work

/-- What is printed for the work, given the exports that the stores hold. -/
def printed (held : Path → Option Export) (work : Work) : String :=
  match work.result held with
  | .ok output => output
  | .error _ => ""

/-- The work of answering messages under settings, if these can be had. -/
def answers (settings : Except Settings.FileError Settings) (messages : List String) : Work :=
  match settings with
  | .error cause => finished (.error (.settings cause))
  | .ok settings => answer settings messages

theorem join_map_empty {α : Type} (xs : List α) : String.join (xs.map fun _ => "") = "" := by
  induction xs with
  | nil => rfl
  | cons x xs ih => rw [List.map_cons, String.join_cons, ih, String.empty_append]

/-- Messages are answered one by one. -/
theorem printed_answers (held : Path → Option Export)
    (settings : Except Settings.FileError Settings)
    (messages : List String) : (answers settings messages).printed held =
      String.join (messages.map fun message => (answers settings [message]).printed held) := by
  cases settings with
  | error cause => exact (join_map_empty messages).symm
  | ok settings =>
    simp only [answers, printed, result, resultWith]
    cases (Location.ofName? settings.database).bind (Store.opened? held) with
    | none => exact (join_map_empty messages).symm
    | some store =>
      simp only [Run.answer, List.map_cons, List.map_nil, String.join_cons, String.join_nil,
        String.append_empty]

theorem ofInvocation_run {directory : Directory} {input : String} {options : Options}
    {command : Command}
    {messages : List String}
    (h : ∀ settings, ofCommand directory settings input command = answer settings messages) :
    ofInvocation directory input (.run options command) =
      answers ((directory.settings options.config).map options.applyTo) messages := by
  rw [ofInvocation]
  cases directory.settings options.config with
  | error cause => rfl
  | ok settings => exact h _

/-- The work has no output but an empty one. -/
def IsSilent (work : Work) : Prop :=
  ∀ held, work.printed held = ""

theorem isSilent_error (failure : Failure) : (finished (.error failure)).IsSilent :=
  fun _ => rfl

theorem isSilent_take (settings : Settings) (sets : Export) : (take settings sets).IsSilent := by
  intro held
  simp only [printed, result, resultWith]
  cases (Location.ofName? settings.database).bind (Store.opened? held) with
  | none => rfl
  | some store => simp only [Run.ingest, Store.take_eq]

theorem isSilent_answer {message : String}
    (h : ∀ store settings, Answer.respond store settings message = none) (settings : Settings) :
    (answer settings [message]).IsSilent := by
  intro held
  simp only [printed, result, resultWith]
  cases (Location.ofName? settings.database).bind (Store.opened? held) with
  | none => rfl
  | some store =>
    simp only [Run.answer, List.map_cons, List.map_nil, h]
    rfl

/-- Where flags take the word for `repl` as an operand, nothing is printed. -/
theorem isSilent_operand {directory : Directory} {input : String} {options : Options}
    {command : Command}
    (h : command = .ask "repl" ∨ command = .ingest "repl") :
    (ofInvocation directory input (.run options command)).IsSilent := by
  rw [ofInvocation]
  cases directory.settings options.config with
  | error cause => exact isSilent_error (.settings cause)
  | ok settings =>
    rcases h with rfl | rfl
    · refine isSilent_answer (fun store settings => ?_) (options.applyTo settings)
      cbv
    · simp only [ofCommand]
      cases directory.readExport "repl" with
      | error cause => exact isSilent_error (.ingestion cause)
      | ok sets => exact isSilent_take (options.applyTo settings) sets

end Work

namespace Call

/-- The call with a message to be answered for its task. -/
def asking (call : Call) (message : String) : Call :=
  { call with task := .ask message }

theorem asks_asking (call : Call) (message : String) : (call.asking message).Asks := by
  intro document h
  cases h

/-- The calls that ask for the lines of an input one by one. -/
def lineByLine (call : Call) (input : String) : List Call :=
  (inputLines input).map call.asking

section

variable {call : Call} {input : String}

theorem files_asking (htask : call.task = .repl input) (message : String) :
    (call.asking message).files = call.files := by
  rw [files, files, htask]
  rfl

theorem arguments_asking (message : String) :
    (call.asking message).arguments = call.settingsOption ++ call.flags ++
      (Task.ask message).arguments :=
  rfl

/-- Where flags are options, the lines of an input are answered under the same settings as a single
    message. -/
theorem work_of_options (htask : call.task = .repl input) {options : Options} (h : ∀ task : Task,
      Invocation.ofArguments (call.settingsOption ++ call.flags ++ task.arguments) =
        .run options task.command) :
    ∃ settings, call.work = .answers settings (inputLines input) ∧
      ∀ message, (call.asking message).work = .answers settings [message] := by
  refine ⟨((call.prepare {}).settings options.config).map options.applyTo, ?_, fun message => ?_⟩
  · rw [work, arguments, h, htask]
    exact Work.ofInvocation_run fun _ => rfl
  · have hprepare : (call.asking message).prepare {} = call.prepare {} := by
      rw [prepare, prepare, files_asking htask]
    rw [work, hprepare, arguments_asking, h (.ask message)]
    exact Work.ofInvocation_run fun _ => rfl

/-- The lines of an input are answered one by one. -/
theorem printed_repl (htask : call.task = .repl input) (held : Path → Option Export)
    (hversion : Invocation.ofArguments call.arguments ≠ .version)
    (hhelp : Invocation.ofArguments call.arguments ≠ .help) :
    call.work.printed held =
      String.join ((inputLines input).map fun line => (call.asking line).work.printed held) := by
  have hsilent : call.work.printed held = "" → (∀ line, (call.asking line).work.printed held = "") →
      call.work.printed held =
        String.join ((inputLines input).map fun line => (call.asking line).work.printed held) := by
    intro hcall hasking
    simp only [hcall, hasking]
    exact (Work.join_map_empty _).symm
  cases Invocation.flagsKind (call.settingsOption ++ call.flags) with
  | options options h =>
    obtain ⟨settings, hwork, hasking⟩ := work_of_options htask h
    simp only [hwork, hasking]
    exact Work.printed_answers held settings (inputLines input)
  | idle invocation hidle h =>
    have hrejected : invocation = .rejected := by
      rw [arguments, h] at hversion hhelp
      cases invocation with
      | rejected => rfl
      | version => exact absurd rfl hversion
      | help => exact absurd rfl hhelp
      | run => exact absurd trivial hidle
    refine hsilent ?_ fun line => ?_
    · rw [work, arguments, h, hrejected]
      rfl
    · rw [work, arguments_asking, h, hrejected]
      rfl
  | command h =>
    refine hsilent ?_ fun line => ?_
    · rw [work, arguments]
      rcases h call.task with hrejected | ⟨-, options, hask | hingest⟩
      · rw [hrejected]
        rfl
      · rw [hask]
        exact Work.isSilent_operand (Or.inl rfl) held
      · rw [hingest]
        exact Work.isSilent_operand (Or.inr rfl) held
    · rcases h (.ask line) with hrejected | ⟨harguments, -⟩
      · rw [work, arguments_asking, hrejected]
        rfl
      · cases congrArg List.length harguments

/-- Flags are options, or else no command is run to answer a single message. -/
theorem options_or_not_runs (call : Call) (message : String) :
    (∃ options, ∀ task : Task, Invocation.ofArguments
      (call.settingsOption ++ call.flags ++ task.arguments) =
      .run options task.command) ∨
        ¬ (Invocation.ofArguments (call.asking message).arguments).Runs := by
  rw [arguments_asking]
  cases Invocation.flagsKind (call.settingsOption ++ call.flags) with
  | options options h => exact Or.inl ⟨options, h⟩
  | idle invocation hidle h =>
    rw [h]
    exact Or.inr hidle
  | command h =>
    rcases h (.ask message) with hrejected | ⟨harguments, -⟩
    · rw [hrejected]
      exact Or.inr id
    · cases congrArg List.length harguments

theorem OwnSettings.asking (hcall : call.OwnSettings) (htask : call.task = .repl input)
    (message : String) :
    (call.asking message).OwnSettings := by
  intro options command hrun
  rcases call.options_or_not_runs message with ⟨options', h⟩ | hidle
  · rw [arguments_asking, h (.ask message)] at hrun
    obtain ⟨rfl, -⟩ := Invocation.run.inj hrun
    rw [paths, files_asking htask]
    exact hcall options' call.task.command (h call.task)
  · rw [hrun] at hidle
    exact absurd trivial hidle

theorem OwnStore.asking (hstore : call.OwnStore) (htask : call.task = .repl input)
    (message : String) :
    (call.asking message).OwnStore := by
  intro path hpath
  rcases call.options_or_not_runs message with ⟨options, h⟩ | hidle
  · obtain ⟨settings, hwork, hasking⟩ := work_of_options htask h
    refine hstore path ?_
    rw [hasking] at hpath
    rw [hwork]
    cases settings with
    | error cause => cases hpath
    | ok settings => exact hpath
  · obtain ⟨options, command, settings, hrun, -⟩ := Work.exists_of_location? hpath
    rw [hrun] at hidle
    exact absurd trivial hidle

end

end Call

end CardCensus
