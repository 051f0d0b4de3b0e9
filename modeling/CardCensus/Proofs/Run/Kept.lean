import CardCensus.Proofs.Run.Work
import CardCensus.Proofs.Store.History

/-!
# What a directory keeps of the calls

The calls of a series share a directory. For each file in it that calls do not bring along, the
directory keeps the export that a call took last into the store there, and nothing else that a later
call could tell: a store that has taken no export is empty, whether its file is missing or has
tables without rows.

Results:
* `Keeps.result_run`: what comes of a call depends on what is held where its store lies.
* `Keeps.run`: a call that takes an export leaves that one where its store lies, and no call leaves
  anything else.
* `Keeps.after`: what a directory keeps of a series.
* `Keeps.after_both`: directories that keep the same go on to keep the same.
-/

namespace CardCensus

/-- The store in a file that has taken an export, or nothing but its tables. -/
def Store.holding : Option Export → Store
  | none => migrate { medium := .file }
  | some sets => (take { medium := .file } sets).1

theorem Store.exists_holding (taken : Option Export) :
    ∃ tables, Store.holding taken = { medium := .file, tables := some tables } := by
  cases taken with
  | none => exact ⟨_, rfl⟩
  | some sets =>
    rw [Store.holding, Store.take_eq]
    exact ⟨_, rfl⟩

/-- An export takes the place of what the store holds. -/
theorem Store.take_holding (taken : Option Export) (sets : Export) :
    (Store.holding taken).take sets = (Store.holding (some sets), .ok sets.count) := by
  obtain ⟨tables, h⟩ := Store.exists_holding taken
  rw [h, Store.holding, Store.take_eq, Store.take_eq]

/-! ## Work on a store -/

/-- The store at a location once it has its tables, given the exports that are held; there are no
    folders. -/
def Store.opened? (held : Path → Option Export) : Location → Option Store
  | .nowhere => some (migrate { medium := .memory })
  | .file path => if path.folder.isEmpty then some (.holding (held path)) else none

namespace Work

/-- What comes of acting on the store that the settings name. -/
def resultWith (held : Path → Option Export) (settings : Settings)
    (act : Store → Store × Except Failure String) : Except Failure String :=
  match (Location.ofName? settings.database).bind (Store.opened? held) with
  | none => .error (.database settings.database)
  | some store => (act store).2

/-- What comes of the work. -/
def result (held : Path → Option Export) : Work → Except Failure String
  | finished result => result
  | take settings sets => resultWith held settings (Run.ingest sets)
  | answer settings messages => resultWith held settings (Run.answer settings messages)

/-- The export that the work takes into the store in a file when its run ends with a code. -/
def taken? (work : Work) (code : Nat) (path : Path) : Option Export :=
  if code = 0 ∧ work.location? = some (.file path) then work.export? else none

theorem result_congr {work : Work} {first second : Path → Option Export}
    (h : ∀ path, work.location? = some (.file path) → first path = second path) :
    work.result first = work.result second := by
  have hstore :
      ∀ name, (∀ path, Location.ofName? name = some (.file path) → first path = second path) →
      (Location.ofName? name).bind (Store.opened? first) =
        (Location.ofName? name).bind (Store.opened? second) := by
    intro name hname
    cases hlocation : Location.ofName? name with
    | none => rfl
    | some location => cases location with
      | nowhere => rfl
      | file path =>
        rw [Option.bind_some, Option.bind_some, Store.opened?, Store.opened?, hname path hlocation]
  cases work with
  | finished result => rfl
  | take settings sets | answer settings messages =>
    rw [result, result, resultWith, resultWith, hstore settings.database h]

end Work

/-! ## The account -/

/-- The location is that of a file that calls bring along. -/
def Location.IsShared (location : Location) : Prop :=
  ∃ path ∈ Call.sharedPaths, location = file path

/-- The directory keeps of each store what the account says. -/
structure Keeps (held : Path → Option Export) (directory : Directory) : Prop where
  folders : directory.folders = []
  texts : Call.TextsShared directory
  stores : ∀ location : Location, ¬ location.IsShared →
    (directory.openStore? location).map Store.migrate = Store.opened? held location

theorem Directory.openStore?_congr {first second : Directory} {path : Path}
    (hfolders : first.folders = second.folders) (hfile : first.find? path = second.find? path) :
    first.openStore? (.file path) = second.openStore? (.file path) := by
  rw [openStore?, openStore?, admits, admits, hfolders, hfile]

theorem keeps_empty : Keeps (fun _ => none) {} where
  folders := rfl
  texts _ _ _ := nofun
  stores location _ := by
    cases location with
    | nowhere => rfl
    | file path =>
      rw [Store.opened?, Directory.openStore?, Directory.admits]
      cases path.folder.isEmpty <;> rfl

namespace Keeps

section

variable {held next : Path → Option Export} {directory : Directory}

/-- The account says nothing of files that calls bring along. -/
theorem congr (h : Keeps held directory)
    (hnext : ∀ path ∉ Call.sharedPaths, next path = held path) :
    Keeps next directory where
  folders := h.folders
  texts := h.texts
  stores location hlocation := by
    rw [h.stores location hlocation]
    cases location with
    | nowhere => rfl
    | file path =>
      rw [Store.opened?, Store.opened?, hnext path fun hpath => hlocation ⟨path, hpath, rfl⟩]

/-- Files that are brought along change nothing. -/
theorem prepare (h : Keeps held directory) (call : Call) : Keeps held (call.prepare directory) where
  folders := (call.folders_prepare directory).trans h.folders
  texts path hpath text := by
    rw [Call.find?_prepare fun hmem => hpath (call.paths_subset hmem)]
    exact h.texts path hpath text
  stores location hlocation := by
    rw [← h.stores location hlocation]
    cases location with
    | nowhere => rfl
    | file path =>
      have hpath : path ∉ call.paths := fun hmem => hlocation ⟨path, call.paths_subset hmem, rfl⟩
      rw [Directory.openStore?_congr (call.folders_prepare directory)
        (Call.find?_prepare hpath directory)]

/-- A store is put into its file, and the others are kept. -/
theorem put (h : Keeps held directory) {path : Path} {tables : Store.Tables}
    (hnext : ∀ other ∉ Call.sharedPaths, other ≠ path → next other = held other)
    (htables : path ∉ Call.sharedPaths →
      Store.holding (next path) = { medium := .file, tables := some tables }) :
    Keeps next (directory.put path (.store tables)) where
  folders := h.folders
  texts other hother text := by
    by_cases heq : other = path
    · rw [heq, Directory.find?_put]
      nofun
    · rw [Directory.find?_put_of_ne _ heq]
      exact h.texts other hother text
  stores location hlocation := by
    cases location with
    | nowhere => rfl
    | file other =>
      have hother : other ∉ Call.sharedPaths := fun hmem => hlocation ⟨other, hmem, rfl⟩
      by_cases heq : other = path
      · subst heq
        have hadmits : (directory.put other (.store tables)).admits other =
            other.folder.isEmpty := by
          rw [Directory.admits, show (directory.put other (.store tables)).folders =
            [] from h.folders]
          cases other.folder.isEmpty <;> rfl
        rw [Directory.openStore?, hadmits, Directory.find?_put, Store.opened?, htables hother]
        cases other.folder.isEmpty <;> rfl
      · have hopen : (directory.put path (.store tables)).openStore? (.file other) =
            directory.openStore? (.file other) :=
          Directory.openStore?_congr rfl (Directory.find?_put_of_ne directory heq _)
        rw [hopen, Store.opened?, hnext other hother heq]
        exact h.stores (.file other) hlocation

/-- A store is closed, and the others are kept. -/
theorem close (h : Keeps held directory) {location : Location} {after : Store}
    (hnext : ∀ path ∉ Call.sharedPaths, location ≠ .file path → next path = held path)
    (hafter : ∀ path ∉ Call.sharedPaths, location = .file path → after = .holding (next path)) :
    Keeps next (directory.closeStore location after) := by
  cases location with
  | nowhere => exact h.congr fun path hpath => hnext path hpath nofun
  | file path =>
    cases htables : after.tables with
    | none =>
      have hclose : directory.closeStore (.file path) after = directory := by
        simp only [Directory.closeStore, htables]
      rw [hclose]
      refine h.congr fun other hother => hnext other hother fun heq => ?_
      obtain ⟨tables, hholding⟩ := Store.exists_holding (next other)
      rw [hafter other hother heq, hholding] at htables
      cases htables
    | some tables =>
      have hclose : directory.closeStore (.file path) after =
          directory.put path (.store tables) := by
        simp only [Directory.closeStore, htables]
      rw [hclose]
      refine h.put (fun other hother hne => hnext other hother fun heq => ?_) fun hpath => ?_
      · exact hne (Location.file.inj heq).symm
      · obtain ⟨tables', hholding⟩ := Store.exists_holding (next path)
        rw [hafter path hpath rfl, hholding] at htables
        rw [hholding, ← htables]

end

end Keeps

/-! ## One call -/

section

variable {directory : Directory} {settings : Settings} {act : Store → Store × Except Failure String}

theorem Run.withStore_of_closed
    (h : (Location.ofName? settings.database).bind directory.openStore? = none) :
    Run.withStore directory settings act = ⟨directory, .error (.database settings.database)⟩ := by
  rw [Run.withStore]
  cases hlocation : Location.ofName? settings.database with
  | none => rfl
  | some location =>
    rw [hlocation, Option.bind_some] at h
    simp only [h]

theorem Run.withStore_of_open {location : Location} {store : Store} {output : String}
    (hlocation : Location.ofName? settings.database = some location)
    (hopen : directory.openStore? location = some store)
    (hact : (act store.migrate).2 = .ok output) :
    Run.withStore directory settings act =
      ⟨directory.closeStore location (act store.migrate).1, .ok output⟩ := by
  have hpair : act store.migrate = ((act store.migrate).1, .ok output) := Prod.ext rfl hact
  simp only [Run.withStore, hlocation, hopen]
  rw [hpair]

end

namespace Keeps

section

variable {held : Path → Option Export} {directory : Directory}

/-- A run that acts on a store, has always an output, and may leave another export there. -/
theorem withStore (h : Keeps held directory) (settings : Settings)
    {act : Store → Store × Except Failure String} {taken : Option Export}
    (houtput : ∀ store, ∃ output, (act store).2 = .ok output)
    (hafter : ∀ old, (act (.holding old)).1 = .holding (taken.or old)) :
    ((∀ path, Location.ofName? settings.database = some (.file path) → path ∉ Call.sharedPaths) →
      (Run.withStore directory settings act).result = Work.resultWith held settings act) ∧
    Keeps (fun path => (if (Run.withStore directory settings act).code = 0 ∧
        Location.ofName? settings.database = some (.file path) then taken else none).or (held path))
      (Run.withStore directory settings act).directory := by
  have hstores : ∀ location, (∀ path, some location = some (.file path) → path ∉ Call.sharedPaths) →
      (directory.openStore? location).map Store.migrate = Store.opened? held location :=
    fun location hown => h.stores location fun ⟨path, hpath, heq⟩ =>
      hown path (congrArg some heq) hpath
  cases hopen : (Location.ofName? settings.database).bind directory.openStore? with
  | none =>
    -- The run fails, so that nothing counts as taken.
    rw [Run.withStore_of_closed hopen, Work.resultWith]
    refine ⟨fun hown => ?_, h.congr fun path _ => ?_⟩
    · cases hlocation : Location.ofName? settings.database with
      | none => rfl
      | some location =>
        rw [hlocation] at hopen hown
        rw [Option.bind_some] at hopen ⊢
        rw [← hstores location hown, hopen]
        rfl
    · rw [if_neg fun hboth => absurd hboth.1 Nat.one_ne_zero, Option.none_or]
  | some store =>
    obtain ⟨location, hlocation, hstore⟩ := Option.bind_eq_some_iff.mp hopen
    obtain ⟨output, hok⟩ := houtput store.migrate
    rw [Run.withStore_of_open hlocation hstore hok, Work.resultWith, hlocation, Option.bind_some]
    refine ⟨fun hown => ?_, h.close (fun path _ hne => ?_) fun path hpath heq => ?_⟩
    · rw [← hstores location hown, hstore]
      exact hok.symm
    · rw [if_neg fun hboth => hne (Option.some.inj hboth.2), Option.none_or]
    · -- The store that was opened is the one of the account, since its file can be opened.
      subst heq
      have hholding :=
        hstores (.file path) fun other heq => Location.file.inj (Option.some.inj heq) ▸ hpath
      rw [hstore, Store.opened?] at hholding
      split at hholding
      · rw [Option.some.inj hholding, hafter, if_pos ⟨rfl, rfl⟩]
      · cases hholding

/-- What comes of the work, and what it leaves. -/
theorem run_work (h : Keeps held directory) (work : Work) :
    ((∀ path, work.location? = some (.file path) → path ∉ Call.sharedPaths) →
      (work.run directory).result = work.result held) ∧
    Keeps (fun path => (work.taken? (work.run directory).code path).or (held path))
      (work.run directory).directory := by
  cases work with
  | finished result =>
    refine ⟨fun _ => rfl, h.congr fun path _ => ?_⟩
    simp only [Work.taken?, Work.export?, ite_self, Option.none_or]
  | take settings sets =>
    have hact : ∀ store, Run.ingest sets store = ((store.take sets).1, .ok "") := by
      intro store
      rw [Run.ingest, Store.take_eq]
    exact h.withStore settings (fun store => ⟨"", congrArg Prod.snd (hact store)⟩) fun old => by
      rw [hact, Store.take_holding]
      rfl
  | answer settings messages =>
    exact h.withStore settings (fun store => ⟨_, rfl⟩) fun old => by
      rw [Run.answer, show (Work.answer settings messages).export? = none from rfl, Option.none_or]

end

end Keeps

/-! ## Calls -/

/-- The export that a call takes into the store in a file. A call that fails takes none. -/
def Call.taken? (call : Call) (directory : Directory) (path : Path) : Option Export :=
  if (call.run directory).code = 0 ∧ call.work.location? = some (.file path) then call.export?
  else none

/-- The export that calls, one after the other, take last into the store in a file. -/
def Series.lastTaken? (directory : Directory) : List Call → Path → Option Export
  | [], _ => none
  | call :: rest, path =>
    (lastTaken? (call.run directory).directory rest path).or (call.taken? directory path)

theorem Series.reply_congr {first second : Run} (h : first.result = second.result) :
    reply first = reply second := by
  rw [reply, reply, Run.code, Run.code, Run.output, Run.output, h]

namespace Keeps

variable {held : Path → Option Export} {directory other : Directory}

theorem result_run (h : Keeps held directory) {call : Call} (hcall : call.OwnSettings)
    (hstore : call.OwnStore) :
    (call.run directory).result = call.work.result held := by
  rw [Call.run_eq hcall h.texts]
  exact ((h.prepare call).run_work call.work).1 hstore

/-- **Step.** What the directory keeps of a call. -/
theorem run (h : Keeps held directory) {call : Call} (hcall : call.OwnSettings) :
    Keeps (fun path => (call.taken? directory path).or (held path))
      (call.run directory).directory := by
  have htaken : ∀ code path, call.work.taken? code path =
      if code = 0 ∧ call.work.location? = some (.file path) then call.export? else none := by
    intro code path
    rw [Work.taken?]
    split
    · rename_i hsome
      exact Call.export?_work hsome.2
    · rfl
  have hkeeps := ((h.prepare call).run_work call.work).2
  simp only [htaken] at hkeeps
  simp only [Call.taken?, Call.run_eq hcall h.texts]
  exact hkeeps

/-- **Run.** What the directory keeps of calls, one after the other. -/
theorem after (h : Keeps held directory) {calls : List Call}
    (hcalls : ∀ call ∈ calls, call.OwnSettings) :
    Keeps (fun path => (Series.lastTaken? directory calls path).or (held path))
      (Series.after directory calls) := by
  induction calls generalizing held directory with
  | nil => exact h
  | cons call rest ih =>
    rw [List.forall_mem_cons] at hcalls
    simp only [Series.lastTaken?, Option.or_assoc]
    exact ih (h.run hcalls.1) hcalls.2

/-- A call ends alike in directories that keep the same. -/
theorem reply_eq (h : Keeps held directory) (hother : Keeps held other) {call : Call}
    (hcall : call.OwnSettings) (hstore : call.OwnStore) :
    Series.reply (call.run directory) = Series.reply (call.run other) :=
  Series.reply_congr ((h.result_run hcall hstore).trans (hother.result_run hcall hstore).symm)

/-- A call takes the same export in directories that keep the same. -/
theorem taken?_eq (h : Keeps held directory) (hother : Keeps held other) {call : Call}
    (hcall : call.OwnSettings) {path : Path} (hpath : path ∉ Call.sharedPaths) :
    call.taken? directory path = call.taken? other path := by
  rw [Call.taken?, Call.taken?]
  by_cases hlocation : call.work.location? = some (.file path)
  · have hstore : call.OwnStore := by
      intro path' hlocation'
      rw [hlocation] at hlocation'
      exact Location.file.inj (Option.some.inj hlocation') ▸ hpath
    have hreply := h.reply_eq hother hcall hstore
    rw [show (call.run directory).code = (call.run other).code from congrArg Prod.fst hreply]
  · rw [if_neg fun hboth => hlocation hboth.2, if_neg fun hboth => hlocation hboth.2]

/-- **Two runs.** Directories that keep the same go on to keep the same. -/
theorem after_both (h : Keeps held directory) (hother : Keeps held other) {calls : List Call}
    (hcalls : ∀ call ∈ calls, call.OwnSettings) :
    ∃ next, Keeps next (Series.after directory calls) ∧ Keeps next (Series.after other calls) := by
  induction calls generalizing held directory other with
  | nil => exact ⟨held, h, hother⟩
  | cons call rest ih =>
    rw [List.forall_mem_cons] at hcalls
    refine ih (h.run hcalls.1) ((hother.run hcalls.1).congr fun path hpath => ?_) hcalls.2
    rw [h.taken?_eq hother hcalls.1 hpath]

end Keeps

end CardCensus
