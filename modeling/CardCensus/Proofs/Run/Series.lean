import CardCensus.Proofs.Run.Lines
import CardCensus.Proofs.Text.Split

/-!
# What a call can tell of the calls before it

Of all the calls before it, a call can tell the export that was taken last into its own store, and
nothing else. Calls that ask change nothing for later ones, and a call that answers the lines of an
input prints what calls print that ask for the lines one by one. Some calls are left out of this.
The name of a store may not be plain: it may be that of a file that calls bring along, or be read by
the library as something else than a name, or be that of a file that the library makes beside
another store. Flags may name for the settings a file that another call brought. And they may ask
for the version or for help, which is shown once however many lines there are.

Results:
* `location_of_isPlainName`: a store with a plain name lies in the file with this name.
* `tells_last_export`: what a call can tell.
* `tells_more`: what it can tell from a settings file of another call, and from the version.
-/

namespace CardCensus

/-! ## Calls that ask -/

namespace Keeps

variable {held : Path → Option Export} {directory : Directory}

theorem output_run (h : Keeps held directory) {call : Call} (hcall : call.OwnSettings)
    (hstore : call.OwnStore) : (call.run directory).output = call.work.printed held := by
  rw [Run.output, h.result_run hcall hstore]
  rfl

/-- A call that asks changes nothing for later ones. -/
theorem run_of_asks (h : Keeps held directory) {call : Call} (hcall : call.OwnSettings)
    (hasks : call.Asks) :
    Keeps held (call.run directory).directory := by
  have hnext := h.run hcall
  simp only [Call.taken?, Call.export?_of_asks hasks, ite_self, Option.none_or] at hnext
  exact hnext

/-- **Run.** Calls that ask print what each of them prints alone. -/
theorem outputs_of_asks (h : Keeps held directory) {calls : List Call}
    (hcalls : ∀ call ∈ calls, call.OwnSettings ∧ call.OwnStore ∧ call.Asks) :
    (Series.replies directory calls).map (·.2) = calls.map fun call => call.work.printed held := by
  induction calls generalizing directory with
  | nil => rfl
  | cons call rest ih =>
    rw [List.forall_mem_cons] at hcalls
    obtain ⟨⟨hcall, hstore, hasks⟩, hrest⟩ := hcalls
    rw [Series.replies, List.map_cons, List.map_cons, Series.reply, h.output_run hcall hstore,
      ih (h.run_of_asks hcall hasks) hrest]

end Keeps

/-! ## Plain names -/

/-- The name is the one of a file in the directory itself in which a store can be kept, and not of
    one that calls bring along or that may be beside a store. -/
structure IsPlainName (name : String) : Prop where
  noSeparator : Path.separator ∉ name.toList
  notIdle : name ∉ Path.idleParts
  notParent : name ≠ Path.parentPart
  notNowhere : name ∉ Location.nowhereNames
  notUri : Location.uriScheme.toList.isPrefixOf? name.toList = none
  notBeside : ∀ suffix ∈ Path.besideSuffixes, ¬ suffix.toList <:+ name.toList
  notShared : [name] ∉ Call.sharedPaths
  short : name.utf8ByteSize ≤ Path.greatestName
  noNul : '\x00' ∉ name.toList

/-- A store with a plain name lies in the file with this name. -/
theorem location_of_isPlainName {name : String} (h : IsPlainName name) :
    Location.ofName? name = some (.file [name]) := by
  have hpieces : Text.pieces (· == Path.separator) name.toList = [name.toList] :=
    Text.pieces_eq_singleton fun c hc => beq_eq_false_iff_ne.mpr fun heq => h.noSeparator (heq ▸ hc)
  have hhead : ¬ some name = some "" :=
    fun heq => h.notIdle (Option.some.inj heq ▸ List.mem_cons_self)
  have hparts : Path.partsOf name = [name] := by
    rw [Path.partsOf, hpieces, List.map_singleton, String.ofList_toList, List.head?_cons,
      if_neg hhead]
  have htaken : Path.takeUp [] name = [name] := by
    rw [Path.takeUp, if_neg (by simpa using h.notIdle), if_pos (by simpa using h.notParent)]
    rfl
  have hroot : name ≠ Path.root := fun heq => h.noSeparator (heq ▸ by decide)
  have hpart : name.utf8ByteSize ≤ Path.greatestPart := Nat.le_trans h.short (by decide)
  have hresolved : Path.resolved? name = some [name] := by
    rw [Path.resolved?, hparts, List.foldl_cons, htaken, List.foldl_nil]
    simp [hroot, h.notParent, h.noNul, h.short, hpart]
  rw [Location.ofName?, Location.pathText?, h.notUri]
  simp [h.notNowhere, hresolved]

namespace Call

/-- The store that a call opens has a plain name, and the settings are the call's own. -/
structure IsPlain (call : Call) : Prop where
  settings : call.OwnSettings
  store : ∀ options command, Invocation.ofArguments call.arguments = .run options command →
    ∀ settings, (call.prepare {}).settings options.config = .ok settings →
      IsPlainName (options.applyTo settings).database

/-- A store with a plain name lies in none of the files that calls bring along. -/
theorem IsPlain.ownStore {call : Call} (h : call.IsPlain) : call.OwnStore := by
  intro path hpath
  obtain ⟨options, command, settings, hrun, hsettings, -, hlocation⟩ :=
    Work.exists_of_location? hpath
  have hname := h.store options command hrun settings hsettings
  rw [location_of_isPlainName hname] at hlocation
  rw [← Location.file.inj (Option.some.inj hlocation)]
  exact hname.notShared

/-- A call is plain if its flags name no settings file, and for its store a plain name. -/
theorem isPlain_of_options {call : Call} {options : Options} {command : Command}
    (hrun : Invocation.ofArguments call.arguments = .run options command)
    (hconfig : options.config = none) {name : String} (hdatabase : options.database = some name)
    (hname : IsPlainName name) : call.IsPlain := by
  refine ⟨fun options' command' hrun' name hname => ?_, fun options' command' hrun' settings _ =>
    ?_⟩
  · rw [hrun] at hrun'
    obtain ⟨rfl, -⟩ := Invocation.run.inj hrun'
    rw [hconfig] at hname
    cases hname
  · rw [hrun] at hrun'
    obtain ⟨rfl, -⟩ := Invocation.run.inj hrun'
    rw [Options.applyTo, hdatabase]
    exact hname

/-! ## The calls before -/

/-- The export that earlier calls took last into the store of a call. -/
def lastTaken? (call : Call) (earlier : List Call) : Option Export :=
  match call.work.location? with
  | some (.file path) => Series.lastTaken? {} earlier path
  | _ => none

/-- A directory for a call, with nothing in it but its store, into which an export has
    been taken. -/
def directoryWith (call : Call) : Option Export → Directory
  | none => {}
  | some sets => match call.work.location? with
    | none => {}
    | some location => Directory.closeStore {} location (Store.take { medium := .file } sets).1

theorem keeps_directoryWith (call : Call) (taken : Option Export) :
    Keeps (fun path => if call.work.location? = some (.file path) then taken else none)
      (call.directoryWith taken) := by
  cases taken with
  | none =>
    simp only [ite_self]
    exact keeps_empty
  | some sets =>
    rw [directoryWith]
    cases call.work.location? with
    | none => simpa using keeps_empty
    | some location =>
      refine keeps_empty.close (fun path _ hne => ?_) fun path _ heq => ?_
      · exact if_neg fun heq => hne (Option.some.inj heq)
      · rw [if_pos (congrArg some heq)]
        rfl

end Call

namespace Series

/-- **Main theorem.** Let some calls be made in an empty directory, and then another one, each with
    settings of its own and a plain name for its store. A call that fails leaves every file but
    those that calls bring along as it was. A call that asks changes nothing for any later call.
    What a call ends with and prints is what it would be with nothing else in the directory than its
    store with the export that was taken last into it. And a call that answers the lines of an input
    prints what calls print that ask for the lines one by one. -/
theorem tells_last_export (calls : List Call) (call : Call)
    (hcalls : ∀ earlier ∈ calls, earlier.IsPlain) (hcall : call.IsPlain) :
    ((call.run (after {} calls)).code ≠ 0 → ∀ path ∉ Call.sharedPaths,
      (call.run (after {} calls)).directory.find? path = (after {} calls).find? path) ∧
    (call.Asks → ∀ (later : List Call) (next : Call), (∀ between ∈ later, between.IsPlain) →
      next.IsPlain →
      reply (next.run (after (call.run (after {} calls)).directory later)) =
        reply (next.run (after (after {} calls) later))) ∧
    reply (call.run (after {} calls)) =
      reply (call.run (call.directoryWith (call.lastTaken? calls))) ∧
    (∀ input, call.task = .repl input →
      Invocation.ofArguments call.arguments ≠ .version →
      Invocation.ofArguments call.arguments ≠ .help →
      (call.run (after {} calls)).output =
        String.join ((replies (after {} calls) (call.lineByLine input)).map (·.2))) := by
  have hsettings := hcall.settings
  have hstore := hcall.ownStore
  have hkeeps : Keeps (lastTaken? {} calls) (after {} calls) := by
    simpa only [Option.or_none] using
      keeps_empty.after fun earlier hearlier => (hcalls earlier hearlier).settings
  refine ⟨fun hcode path hpath => ?_, fun hasks later next hlater hnext => ?_, ?_,
    fun input htask hversion hhelp => ?_⟩
  · have hfailed : ∃ failure, (call.run (after {} calls)).result = .error failure := by
      rw [Run.code] at hcode
      split at hcode
      · exact absurd rfl hcode
      · exact ⟨_, by assumption⟩
    obtain ⟨failure, hfailure⟩ := hfailed
    -- Nothing has happened to the directory but that files were brought along.
    have hdirectory : (call.run (after {} calls)).directory = call.prepare (after {} calls) :=
      Run.directory_of_error hfailure
    rw [hdirectory, Call.find?_prepare fun hmem => hpath (call.paths_subset hmem)]
  · obtain ⟨held, hafter, hafter'⟩ := (hkeeps.run_of_asks hsettings hasks).after_both hkeeps
      fun between hbetween => (hlater between hbetween).settings
    exact hafter.reply_eq hafter' hnext.settings hnext.ownStore
  · -- Of all that the directory keeps, the work of the call looks at its own store only.
    have hagree : call.work.result (lastTaken? {} calls) = call.work.result fun path =>
        if call.work.location? = some (.file path) then call.lastTaken? calls else none := by
      refine Work.result_congr fun path hpath => ?_
      rw [if_pos hpath, Call.lastTaken?, hpath]
    have halone := (call.keeps_directoryWith (call.lastTaken? calls)).result_run hsettings hstore
    exact reply_congr (((hkeeps.result_run hsettings hstore).trans hagree).trans halone.symm)
  · have hlines : ∀ next ∈ call.lineByLine input, next.OwnSettings ∧ next.OwnStore ∧ next.Asks := by
      intro next hnext
      obtain ⟨line, -, rfl⟩ := List.mem_map.mp hnext
      exact ⟨hsettings.asking htask line, hstore.asking htask line, call.asks_asking line⟩
    rw [hkeeps.output_run hsettings hstore, Call.printed_repl htask _ hversion hhelp,
      hkeeps.outputs_of_asks hlines,
      Call.lineByLine, List.map_map]
    rfl

/-- An empty export for one store, a question to another one, a document that is no export, and two
    lines. -/
theorem tells_last_export_mixed :
    let calls : List Call := [{ flags := ["--db", "a.db"], task := .ingest "{}" },
      { flags := ["--db=b.db", "--strict"], task := .ask "[[shock]]" }]
    let failing : Call := { flags := ["--db", "a.db"], task := .ingest "" }
    let lines : Call := { flags := ["--db", "a.db"], task := .repl "[[shock]]\nnothing" }
    (∀ path ∉ Call.sharedPaths,
      (failing.run (after {} calls)).directory.find? path = (after {} calls).find? path) ∧
    reply (lines.run (after (lines.run (after {} calls)).directory calls)) =
      reply (lines.run (after (after {} calls) calls)) ∧
    reply (lines.run (after {} calls)) = reply (lines.run (lines.directoryWith (some []))) ∧
    (lines.run (after {} calls)).output = String.join ((replies (after {} calls)
      (lines.lineByLine "[[shock]]\nnothing")).map (·.2)) := by
  intro calls failing lines
  have hingest : Invocation.ofArguments ["--db", "a.db", "ingest", "sets.json"] =
      .run { database := some "a.db" } (.ingest "sets.json") := by decide +kernel
  have hask : Invocation.ofArguments ["--db=b.db", "--strict", "ask", "--", "[[shock]]"] =
      .run { database := some "b.db", strict := true } (.ask "[[shock]]") := by decide +kernel
  have hrepl : Invocation.ofArguments lines.arguments = .run { database := some "a.db" } .repl := by
    decide +kernel
  have ha : IsPlainName "a.db" := by constructor <;> decide
  have hb : IsPlainName "b.db" := by constructor <;> decide
  have hcalls : ∀ call ∈ calls, call.IsPlain := by
    rw [List.forall_mem_cons, List.forall_mem_singleton]
    exact ⟨Call.isPlain_of_options hingest rfl rfl ha, Call.isPlain_of_options hask rfl rfl hb⟩
  have hfailing : failing.IsPlain := Call.isPlain_of_options hingest rfl rfl ha
  have hlines : lines.IsPlain := Call.isPlain_of_options hrepl rfl rfl ha
  have hcode : (failing.run (after {} calls)).code ≠ 0 := by decide +kernel
  have hlast : lines.lastTaken? calls = some [] := by rfl
  obtain ⟨hkept, -⟩ := tells_last_export calls failing hcalls hfailing
  obtain ⟨-, hlater, hreply, houtput⟩ := tells_last_export calls lines hcalls hlines
  rw [hlast] at hreply
  exact ⟨hkept hcode, hlater (fun _ => nofun) calls lines hcalls hlines, hreply,
    houtput _ rfl (by rw [hrepl]; nofun) (by rw [hrepl]; nofun)⟩

/-- What is left out. A document that was no export serves another call for its settings file,
    though no export has been taken; and the version is shown for an input without lines. -/
theorem tells_more :
    let failing : Call := { task := .ingest "" }
    let asking : Call := { flags := ["--config", "sets.json"], task := .ask "#[[count:id]]" }
    let lines : Call := { flags := ["--version"], task := .repl "" }
    ((∀ path, lastTaken? {} [failing] path = none) ∧
      (asking.run (after {} [failing])).output ≠ (asking.run {}).output) ∧
    (lines.run {}).output ≠ String.join ((replies {} (lines.lineByLine "")).map (·.2)) := by
  intro failing asking lines
  refine ⟨⟨fun path => ?_, ?_⟩, by decide +kernel⟩
  · have hcode : (failing.run {}).code = 1 := by decide +kernel
    rw [lastTaken?, lastTaken?, Option.none_or, Call.taken?, hcode]
    exact if_neg fun hboth => absurd hboth.1 (by decide)
  · have hanswer : (asking.run (after {} [failing])).output = answerLine
        (Answer.respond (Store.migrate { medium := .file }) (Settings.forAnswers {})
          "#[[count:id]]") := by rfl
    have hnothing : (asking.run {}).output = "" := by rfl
    rw [hanswer, hnothing]
    cases hrespond : Answer.respond (Store.migrate { medium := .file }) (Settings.forAnswers {})
        "#[[count:id]]" with
    | none =>
      have hstats : Message.stats "#[[count:id]]" = ["count:id"] := by cbv
      have hempty := (Answer.respond_eq_none_iff.mp hrespond).1
      rw [hstats] at hempty
      cases hempty
    | some answer => simp [answerLine]

end Series

end CardCensus
