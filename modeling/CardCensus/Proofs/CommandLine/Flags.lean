import CardCensus.Series

/-!
# What flags do to a task

The arguments of a call are its flags and behind them those of its task. Flags are read from left to
right and may be options only, in which case the task is done under these options; or they decide
already what is to happen, whatever the task; or they name a command of their own, for which the
arguments of the task are too many, except for the single one of `repl`.

Results:
* `read_append`: how far the reading comes before the task.
* `flagsKind`: the three kinds of flags.
-/

namespace CardCensus.Invocation

/-! ## Reading from left to right -/

/-- Where the reading of arguments stands. -/
inductive Reached where
  /-- All were options, and the last may await its value. -/
  | options (options : Options) (awaiting : Option ValueOption)
  /-- There is a command, perhaps with arguments behind it. -/
  | command (options : Options) (word : String) (rest : List String)
  /-- What follows is not looked at any more. -/
  | finished (invocation : Invocation)

/-- Where the reading stands after one option. -/
def Reached.ofStep (before : Options) : Step → Reached
  | .done after => options after none
  | .awaiting option => options before (some option)
  | .finished invocation => finished invocation

/-- Where the reading stands after one argument. -/
def advance (options : Options) (awaiting : Option ValueOption) (text : String) : Reached :=
  match Argument.ofText text, awaiting with
  | .operand value, some option => .ofStep options (stepOfSet options option value)
  | .operand word, none => .command options word []
  | .long word value, none => .ofStep options (stepLong options word value)
  | .short letter attached, none => .ofStep options (stepShort options letter attached)
  | _, _ => .finished rejected

/-- What the reading goes on to with further arguments. -/
def Reached.resume (arguments : List String) : Reached → Invocation
  | options before awaiting => read before awaiting arguments
  | command before word rest => readCommand before word (rest ++ arguments)
  | finished invocation => invocation

/-- Where the reading stands after further arguments. -/
def reach (options : Options) (awaiting : Option ValueOption) : List String → Reached
  | [] => .options options awaiting
  | text :: rest => match advance options awaiting text with
    | .options options awaiting => reach options awaiting rest
    | .command options word behind => .command options word (behind ++ rest)
    | .finished invocation => .finished invocation

/-- **Step.** One argument is read, and then the others from where the reading stands. -/
theorem read_cons (options : Options) (awaiting : Option ValueOption) (text : String)
    (rest : List String) :
    read options awaiting (text :: rest) = (advance options awaiting text).resume rest := by
  cases hargument : Argument.ofText text with
  | operandMark => cases awaiting <;> simp only [read, advance, hargument, Reached.resume]
  | long word value =>
    cases awaiting with
    | none =>
      simp only [read, advance, hargument]
      cases stepLong options word value <;> rfl
    | some option => simp only [read, advance, hargument, Reached.resume]
  | short letter attached =>
    cases awaiting with
    | none =>
      simp only [read, advance, hargument]
      cases stepShort options letter attached <;> rfl
    | some option => simp only [read, advance, hargument, Reached.resume]
  | operand value =>
    cases awaiting with
    | none => simp only [read, advance, hargument, Reached.resume, List.nil_append]
    | some option =>
      simp only [read, advance, hargument, stepOfSet]
      cases options.set? option value <;> rfl

/-- **Run.** Arguments behind others are read from where the reading stands. -/
theorem read_append (options : Options) (awaiting : Option ValueOption)
    (flags arguments : List String) :
    read options awaiting (flags ++ arguments) =
      (reach options awaiting flags).resume arguments := by
  induction flags generalizing options awaiting with
  | nil => rfl
  | cons text rest ih =>
    rw [List.cons_append, read_cons, reach]
    cases advance options awaiting text with
    | options after awaiting => exact ih after awaiting
    | command after word behind =>
      exact congrArg (readCommand after word) (List.append_assoc _ _ _).symm
    | finished invocation => rfl

/-- The invocation runs a command. -/
def Runs : Invocation → Prop
  | run _ _ => True
  | _ => False

/-- Before there is a command, nothing is run. -/
theorem not_runs_of_step {options : Options} {invocation : Invocation} : ∀ {step : Step},
    (∃ option value, step = stepOfSet options option value) ∨
      (∃ word value, step = stepLong options word value) ∨
      (∃ letter attached, step = stepShort options letter attached) →
    step = .finished invocation → ¬ invocation.Runs := by
  have hset : ∀ option value, stepOfSet options option value = .finished invocation →
      ¬ invocation.Runs := by
    intro option value h
    unfold stepOfSet at h
    split at h <;> cases h
    exact id
  rintro step (⟨option, value, rfl⟩ | ⟨word, value, rfl⟩ | ⟨letter, attached, rfl⟩) h
  · exact hset option value h
  · unfold stepLong at h
    split at h
    · exact hset _ _ h
    · cases h
    · cases h
      exact id
    · repeat' split at h
      all_goals cases h
      all_goals exact id
  · unfold stepShort at h
    split at h
    · exact hset _ _ h
    · cases h
    · repeat' split at h
      all_goals cases h
      all_goals exact id

theorem not_runs_of_advance {options : Options} {awaiting : Option ValueOption} {text : String}
    {invocation : Invocation} (h : advance options awaiting text = .finished invocation) :
    ¬ invocation.Runs := by
  have hstep : ∀ {step : Step}, Reached.ofStep options step = .finished invocation →
      step = .finished invocation := by
    intro step h
    cases step <;> cases h
    rfl
  unfold advance at h
  split at h
  · exact not_runs_of_step (Or.inl ⟨_, _, rfl⟩) (hstep h)
  · cases h
  · exact not_runs_of_step (Or.inr (Or.inl ⟨_, _, rfl⟩)) (hstep h)
  · exact not_runs_of_step (Or.inr (Or.inr ⟨_, _, rfl⟩)) (hstep h)
  · cases h
    exact id

theorem not_runs_of_reach {options : Options} {awaiting : Option ValueOption} {flags : List String}
    {invocation : Invocation} (h : reach options awaiting flags = .finished invocation) :
    ¬ invocation.Runs := by
  induction flags generalizing options awaiting with
  | nil => cases h
  | cons text rest ih =>
    rw [reach] at h
    split at h
    · exact ih h
    · cases h
    · rename_i hadvance
      cases h
      exact not_runs_of_advance hadvance

/-! ## Operands -/

/-- An argument that is no operand settles what the arguments behind a command ask for. -/
theorem readOperands_cons_of_settled {text : String} {limit : Nat}
    (h : ∀ operand, Argument.ofText text ≠ .operand operand)
    (hmark : Argument.ofText text ≠ .operandMark)
    (rest more : List String) :
    readOperands limit (text :: rest) = readOperands limit (text :: more) ∧
      (readOperands limit (text :: rest) = .help ∨
        readOperands limit (text :: rest) = .rejected) := by
  simp only [readOperands]
  cases hargument : Argument.ofText text with
  | operandMark => exact absurd hargument hmark
  | operand operand => exact absurd hargument (h operand)
  | long word value => by_cases hhelp : word = "help" ∧ value = none <;> simp [hhelp]
  | short letter rest => by_cases hhelp : letter = 'h' <;> simp [hhelp]

/-- Behind the mark for operands there is no help. -/
theorem readOperands_cons_of_operandMark {text : String} (h : Argument.ofText text = .operandMark)
    (limit : Nat)
    (rest : List String) : readOperands limit (text :: rest) =
      if rest.length ≤ limit then .found rest else .rejected := by
  rw [readOperands, h]

/-- The operands behind one more. -/
def Operands.cons (operand : String) : Operands → Operands
  | found operands => found (operand :: operands)
  | other => other

theorem readOperands_cons_of_operand {text operand : String}
    (h : Argument.ofText text = .operand operand)
    (limit : Nat) (rest : List String) : readOperands (limit + 1) (text :: rest) =
      (readOperands limit rest).cons operand := by
  rw [readOperands, h]
  rfl

theorem readOperands_zero_cons_of_operand {text operand : String}
    (h : Argument.ofText text = .operand operand)
    (rest : List String) : readOperands 0 (text :: rest) = .rejected := by
  rw [readOperands, h]

theorem cons_eq_help_iff {operand : String} {operands : Operands} :
    operands.cons operand = .help ↔ operands = .help := by
  cases operands <;> simp [Operands.cons]

theorem readOperands_append_of_help {limit : Nat} {rest : List String}
    (h : readOperands limit rest = .help)
    (more : List String) : readOperands limit (rest ++ more) = .help := by
  induction rest generalizing limit with
  | nil => simp [readOperands] at h
  | cons text rest ih =>
    rw [List.cons_append]
    cases hargument : Argument.ofText text with
    | operandMark =>
      rw [readOperands_cons_of_operandMark hargument] at h
      split at h <;> cases h
    | long | short =>
      rw [← (readOperands_cons_of_settled (by simp [hargument]) (by simp [hargument]) rest
        (rest ++ more)).1]
      exact h
    | operand operand =>
      cases limit with
      | zero =>
        rw [readOperands_zero_cons_of_operand hargument] at h
        cases h
      | succ limit =>
        rw [readOperands_cons_of_operand hargument, cons_eq_help_iff] at h ⊢
        exact ih h

/-- Where at most one operand is allowed, what stands behind others that do not ask for help is too
    much, unless it is the only operand. -/
theorem readOperands_append {more : List String} (hne : more ≠ [])
    (hmore : ∀ limit ≤ 1, readOperands limit more = .rejected ∨
      limit = 1 ∧ more.length = 1 ∧ readOperands limit more = .found more)
    {limit : Nat} (hlimit : limit ≤ 1) {rest : List String} (h : readOperands limit rest ≠ .help) :
    readOperands limit (rest ++ more) = .rejected ∨
      limit = 1 ∧ more.length = 1 ∧ readOperands limit (rest ++ more) = .found more := by
  induction rest generalizing limit with
  | nil => exact hmore limit hlimit
  | cons text rest ih =>
    rw [List.cons_append]
    cases hargument : Argument.ofText text with
    | operandMark =>
      rw [readOperands_cons_of_operandMark hargument]
      split
      · rename_i hle
        have hpos := List.length_pos_iff.mpr hne
        rw [List.length_append] at hle
        obtain rfl : rest = [] := List.length_eq_zero_iff.mp (by omega)
        exact Or.inr ⟨by omega, by omega, rfl⟩
      · exact Or.inl rfl
    | long | short =>
      obtain ⟨hsame, hhelp | hrejected⟩ := @readOperands_cons_of_settled text limit
        (by simp [hargument]) (by simp [hargument]) rest (rest ++ more)
      · exact absurd hhelp h
      · exact Or.inl (hsame.symm.trans hrejected)
    | operand operand =>
      cases limit with
      | zero => exact Or.inl (readOperands_zero_cons_of_operand hargument _)
      | succ limit =>
        rw [readOperands_cons_of_operand hargument, Ne, cons_eq_help_iff] at h
        rw [readOperands_cons_of_operand hargument]
        obtain hrejected | ⟨hone, -⟩ := ih (by omega) h
        · rw [hrejected]
          exact Or.inl rfl
        · omega

/-! ## The three kinds of flags -/

/-- How flags act on the arguments of a task behind them. -/
inductive FlagsKind (flags : List String) : Prop where
  /-- They are options, under which the task is done. -/
  | options (options : Options) (h : ∀ task : Task,
      ofArguments (flags ++ task.arguments) = .run options task.command)
  /-- They decide already, and nothing is run. -/
  | idle (invocation : Invocation) (hidle : ¬ invocation.Runs)
      (h : ∀ task : Task, ofArguments (flags ++ task.arguments) = invocation)
  /-- They name a command, for which a task has too many arguments, or the one it asks for. -/
  | command (h : ∀ task : Task, ofArguments (flags ++ task.arguments) = .rejected ∨
      task.arguments = ["repl"] ∧ ∃ options,
        ofArguments (flags ++ task.arguments) = .run options (.ask "repl") ∨
          ofArguments (flags ++ task.arguments) = .run options (.ingest "repl"))

theorem arguments_ne_nil (task : Task) : task.arguments ≠ [] := by
  cases task <;> exact List.cons_ne_nil _ _

theorem readOperands_arguments (task : Task) :
    ∀ limit ≤ 1, readOperands limit task.arguments = .rejected ∨
    limit = 1 ∧ task.arguments.length = 1 ∧ readOperands limit task.arguments =
      .found task.arguments := by
  intro limit hlimit
  match limit, hlimit with
  | 0, _ => cases task <;> exact Or.inl rfl
  | 1, _ =>
    cases task with
    | ingest | ask => exact Or.inl rfl
    | repl => exact Or.inr ⟨rfl, rfl, rfl⟩

theorem arguments_eq_of_length {task : Task} (h : task.arguments.length = 1) :
    task.arguments = ["repl"] := by
  cases task with
  | ingest | ask => cases h
  | repl => rfl

/-- Flags that name a command. -/
theorem flagsKind_of_withOperand {flags rest : List String} {options : Options} {limit : Nat}
    (hlimit : limit ≤ 1)
    {command? : Option String → Option Command} (hcommand : limit = 1 → ∀ command,
      command? (some "repl") = some command → command = .ask "repl" ∨ command = .ingest "repl")
    (h : ∀ task : Task, ofArguments (flags ++ task.arguments) =
      withOperand limit (rest ++ task.arguments) command? options) : FlagsKind flags := by
  by_cases hhelp : readOperands limit rest = .help
  · refine .idle help id fun task => ?_
    rw [h, withOperand, readOperands_append_of_help hhelp]
  · refine .command fun task => ?_
    rw [h]
    obtain hrejected | ⟨hone, hlength, hfound⟩ :=
      readOperands_append (arguments_ne_nil task) (readOperands_arguments task) hlimit hhelp
    · rw [withOperand, hrejected]
      exact Or.inl rfl
    · have harguments := arguments_eq_of_length hlength
      rw [harguments] at hfound ⊢
      cases hrepl : command? (some "repl") with
      | none =>
        rw [withOperand, hfound]
        simp only [List.head?_cons, hrepl, true_or]
      | some command =>
        have hinvocation : withOperand limit (rest ++ ["repl"]) command? options =
            run options command := by
          rw [withOperand, hfound]
          simp only [List.head?_cons, hrepl]
        rw [hinvocation]
        obtain rfl | rfl := hcommand hone command hrepl
        · exact Or.inr ⟨rfl, options, Or.inl rfl⟩
        · exact Or.inr ⟨rfl, options, Or.inr rfl⟩

/-- An option that awaits its value takes the first argument of a task for it, and then there is no
    command. -/
theorem read_awaiting_arguments (options : Options) (option : ValueOption) (task : Task) :
    read options (some option) task.arguments = rejected := by
  have htaken : ∀ {value : String} {rest : List String}, Argument.ofText value = .operand value →
      (∀ after, read after none rest = rejected) →
        read options (some option) (value :: rest) = rejected := by
    intro value rest hvalue hrest
    rw [read_cons]
    simp only [advance, hvalue, stepOfSet]
    cases options.set? option value with
    | none => rfl
    | some after => exact hrest after
  cases task with
  | ingest | ask | repl => exact htaken rfl fun _ => rfl

/-- **Main lemma.** There are three kinds of flags. -/
theorem flagsKind (flags : List String) : FlagsKind flags := by
  have happend : ∀ task : Task, ofArguments (flags ++ task.arguments) =
      (reach {} none flags).resume task.arguments :=
        fun task => read_append {} none flags task.arguments
  cases hreach : reach {} none flags with
  | finished invocation =>
    rw [hreach] at happend
    exact .idle invocation (not_runs_of_reach hreach) happend
  | options options awaiting =>
    rw [hreach] at happend
    cases awaiting with
    | none =>
      refine .options options fun task => (happend task).trans ?_
      cases task <;> rfl
    | some option =>
      exact .idle rejected id fun task =>
        (happend task).trans (read_awaiting_arguments options option task)
  | command options word rest =>
    rw [hreach] at happend
    simp only [Reached.resume, readCommand] at happend
    split at happend
    · refine flagsKind_of_withOperand (Nat.le_refl 1) (fun _ command h => ?_) happend
      cases h
      exact Or.inr rfl
    · split at happend
      · refine flagsKind_of_withOperand (Nat.le_refl 1) (fun _ command h => ?_) happend
        cases h
        exact Or.inl rfl
      · split at happend
        · exact flagsKind_of_withOperand (Nat.zero_le 1) (fun h => nomatch h) happend
        · split at happend
          · exact .idle help id happend
          · exact .idle rejected id happend

end CardCensus.Invocation
