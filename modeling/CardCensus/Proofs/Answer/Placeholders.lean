import CardCensus.Proofs.Answer.Isolation
import CardCensus.Proofs.Store.Counting
import CardCensus.Proofs.Store.Hidden
import CardCensus.Proofs.Store.Unnumbered

/-!
# Placeholders are not seen

A printing without a picture takes part in nothing: it is left out before a printing is chosen to
stand for its name and before a lookup ranks its candidates. Placeholders that are added anywhere in
the history of a store shift the row numbers of all later printings and have rows in every table.
Yet no statistic that does not ask for the row numbers tells them, and no lookup that does not ask
for all sets.

Results:
* `retained_unnumbered`: a plan retains the same rows, their numbers apart.
* `candidates_eq`: a lookup has the same candidates.
* `placeholders_unseen`: histories and their padded forms, end to end.
* `placeholder_seen`: a needle that is too long tells them.
-/

namespace CardCensus

namespace Store.Tables.Shows

variable {ids : List String} {padded tables : Tables}

/-! ## Plans -/

theorem extend_eq (h : Shows ids padded tables) {row : JoinedRow} (hid : row.card.id ∈ ids)
    (relation : Relation) :
    padded.extend row relation = tables.extend row relation := by
  have hsame : ∀ {k : String}, (k == row.card.id) = true → k ∈ ids :=
    fun heq => beq_iff_eq.mp heq ▸ hid
  cases relation with
  | cards => rfl
  | setMembership => rw [Tables.extend, h.memberships.filter_eq fun _ => hsame, Tables.extend]
  | color => rw [Tables.extend, h.colors.filter_eq fun _ => hsame, Tables.extend]
  | colorIdentity => rw [Tables.extend, h.identities.filter_eq fun _ => hsame, Tables.extend]

theorem contains_view_eq (h : Shows ids padded tables) {id : String} (hid : id ∈ ids) (tag : Tag) :
    (padded.view tag).contains id = (tables.view tag).contains id := by
  have hrows : AgreeOn ids AxisRow.id (padded.axisRows tag.axis) (tables.axisRows tag.axis) :=
    h.axisRows tag.axis
  unfold AgreeOn at hrows
  rw [Bool.eq_iff_iff, List.contains_iff_mem, List.contains_iff_mem, Tables.mem_view_iff,
    Tables.mem_view_iff,
    ← hrows, List.mem_filter]
  exact (and_iff_left (decide_eq_true hid)).symm

/-- Placeholders apart, a plan joins the same rows, their numbers apart. -/
theorem joined_unnumbered (h : Shows ids padded tables) (plan : Plan) :
    ((padded.joined plan).filter fun row => decide (row.card.id ∈ ids)).map JoinedRow.unnumbered =
      (tables.joined plan).map JoinedRow.unnumbered := by
  have hcards : padded.cards.entries.filter (fun card => decide (card.id ∈ ids)) =
      tables.cards.entries := h.cards
  have hbase :
      (padded.baseRows.filter fun row => decide (row.card.id ∈ ids)).map JoinedRow.unnumbered =
      tables.baseRows.map JoinedRow.unnumbered := by
    have hunnumbered : ∀ tables : Tables, tables.baseRows.map JoinedRow.unnumbered =
        tables.cards.entries.map fun card => { number := 0, card } := by
      intro tables
      rw [Tables.baseRows, Table.entries, List.map_map, List.map_map]
      rfl
    have hfilter :
        (padded.baseRows.filter fun row => decide (row.card.id ∈ ids)).map JoinedRow.unnumbered =
        (padded.baseRows.map JoinedRow.unnumbered).filter fun row =>
          decide (row.card.id ∈ ids) := by
      rw [List.filter_map]
      rfl
    rw [hfilter, hunnumbered, hunnumbered, ← hcards, List.filter_map]
    rfl
  have hseen : ∀ row ∈ padded.baseRows.filter (fun row => decide (row.card.id ∈ ids)),
      row.card.id ∈ ids :=
    fun row hrow => of_decide_eq_true (List.mem_filter.mp hrow).2
  calc ((padded.joined plan).filter fun row => decide (row.card.id ∈ ids)).map JoinedRow.unnumbered
      = (plan.joins.foldl padded.joinWith
          (padded.baseRows.filter fun row => decide (row.card.id ∈ ids))).map
            JoinedRow.unnumbered :=
        congrArg (List.map JoinedRow.unnumbered)
          (Tables.filter_foldl_joinWith (fun card => decide (card.id ∈ ids))
            plan.joins padded.baseRows)
    _ = (plan.joins.foldl tables.joinWith
          (padded.baseRows.filter fun row => decide (row.card.id ∈ ids))).map
            JoinedRow.unnumbered := by
        rw [Tables.foldl_joinWith_congr (P := fun card => card.id ∈ ids)
          (fun _ hid => h.extend_eq hid) hseen]
    _ = (tables.joined plan).map JoinedRow.unnumbered := by
        rw [← foldl_joinWith_unnumbered, hbase, foldl_joinWith_unnumbered, Tables.joined]

/-- A plan retains the same rows, their numbers apart: a placeholder passes none of the plans. -/
theorem retained_unnumbered (h : Shows ids padded tables) (plan : Plan) :
    (padded.retained plan).map JoinedRow.unnumbered =
      (tables.retained plan).map JoinedRow.unnumbered := by
  let keeps (tables : Tables) (row : JoinedRow) : Bool :=
    row.card.multiverseId != 0 && plan.predicates.all (passes tables row)
  have hretained : padded.retained plan =
      ((padded.joined plan).filter fun row => decide (row.card.id ∈ ids)).filter
        (keeps tables) := by
    rw [List.filter_filter, Tables.retained]
    apply List.filter_congr
    intro row hrow
    -- A row under another id is that of a placeholder, which no plan retains.
    by_cases hid : row.card.id ∈ ids
    · have hpasses : passes padded row = passes tables row :=
        funext (passes_congr (h.contains_view_eq hid))
      simp only [keeps, hpasses, hid, decide_true, Bool.and_true]
    · have hplaceholder : row.card.multiverseId = 0 :=
        h.pictured row.card (Table.mem_entries_iff.mpr ⟨_, Tables.mem_joined hrow⟩) hid
      simp [keeps, hplaceholder]
  have hkeeps : keeps tables ∘ JoinedRow.unnumbered = keeps tables := by
    funext row
    have hpasses : passes tables row.unnumbered = passes tables row :=
      funext (passes_unnumbered row)
    show (_ && plan.predicates.all (passes tables row.unnumbered)) = keeps tables row
    rw [hpasses]
    rfl
  have hcommute : ∀ rows : List JoinedRow, (rows.filter (keeps tables)).map JoinedRow.unnumbered =
      (rows.map JoinedRow.unnumbered).filter (keeps tables) := by
    intro rows
    rw [List.filter_map, hkeeps]
  calc (padded.retained plan).map JoinedRow.unnumbered
      = (((padded.joined plan).filter fun row => decide (row.card.id ∈ ids)).map
          JoinedRow.unnumbered).filter (keeps tables) := by rw [hretained, hcommute]
    _ = ((tables.joined plan).map JoinedRow.unnumbered).filter (keeps tables) := by
      rw [h.joined_unnumbered]
    _ = (tables.retained plan).map JoinedRow.unnumbered := (hcommute _).symm

/-! ## Lookups -/

theorem flatMap_filter_of_nil {α β : Type} (test : α → Bool) {f : α → List β} {items : List α}
    (h : ∀ item ∈ items, test item = false → f item = []) :
    (items.filter test).flatMap f = items.flatMap f := by
  induction items with
  | nil => rfl
  | cons item rest ih =>
    rw [List.forall_mem_cons] at h
    cases htest : test item with
    | true => rw [List.filter_cons_of_pos htest, List.flatMap_cons, List.flatMap_cons, ih h.2]
    | false =>
      rw [List.filter_cons_of_neg (Bool.eq_false_iff.mp htest), List.flatMap_cons, h.1 htest,
        ih h.2,
        List.nil_append]

/-- A lookup has the same candidates, in the same order. -/
theorem candidates_eq (h : Shows ids padded tables) (phrases : List (List (List UInt8)))
    (scope : SetScope) :
    Lookup.candidates padded phrases scope = Lookup.candidates tables phrases scope := by
  have hcards : padded.cards.entries.filter (fun card => decide (card.id ∈ ids)) =
      tables.cards.entries := h.cards
  have hnames : ∀ card : CardRow, card.id ∈ ids →
      padded.names.entries.filter (fun row => row.id == card.id &&
        Lookup.nameMatches phrases row.name) =
        tables.names.entries.filter fun row => row.id == card.id &&
          Lookup.nameMatches phrases row.name := by
    intro card hid
    apply h.names.filter_eq
    intro row htest
    rw [beq_iff_eq.mp (Bool.and_eq_true_iff.mp htest).1]
    exact hid
  have hmemberships : ∀ card : CardRow, card.id ∈ ids →
      padded.memberships.entries.filter
        (fun row => row.id == card.id && Lookup.admits scope row.setCode) =
        tables.memberships.entries.filter fun row => row.id == card.id &&
          Lookup.admits scope row.setCode := by
    intro card hid
    apply h.memberships.filter_eq
    intro row htest
    rw [beq_iff_eq.mp (Bool.and_eq_true_iff.mp htest).1]
    exact hid
  rw [Lookup.candidates, ← flatMap_filter_of_nil fun card => decide (card.id ∈ ids), hcards,
    Lookup.candidates]
  · apply List.flatMap_congr
    intro card hcard
    rw [← hcards, List.mem_filter] at hcard
    have hid : card.id ∈ ids := of_decide_eq_true hcard.2
    rw [hnames card hid, hmemberships card hid]
  · intro card hcard hnot
    exact if_pos (h.pictured card hcard (of_decide_eq_false hnot))

theorem find_eq (h : Shows ids padded tables) {search : CardSearch} (hscope : search.scope ≠ .all) :
    Lookup.find padded search = Lookup.find tables search := by
  unfold Lookup.find
  simp only [h.candidates_eq]
  cases hsearch : search.scope with
  | all => exact absurd hsearch hscope
  | any | code => rfl

end Store.Tables.Shows

/-! ## Stores -/

namespace Store.Shows

variable {ids : List String} {padded store : Store}

theorem aggregate_eq (h : Shows ids padded store) {plan : Plan}
    (hshort : ∀ needle ∈ plan.needles, Sql.isTooLong needle = false) {request : Request}
    (hcolumn : Text.folded request.column ≠ "printing") :
    padded.aggregate plan request = store.aggregate plan request := by
  apply aggregate_congr
  obtain ⟨hother, hstore⟩ | ⟨_, _, hother, hstore, hshows⟩ := h.tables_cases
  · rw [hother, hstore]
    exact .none
  · rw [hother, hstore]
    refine .some fun _ hoperand =>
      ⟨?_, answerOf_grouped_eq (hshows.retained_unnumbered plan) hcolumn hoperand⟩
    rw [meetsLongPattern_eq_false hshort, meetsLongPattern_eq_false hshort]

theorem lookup_eq (h : Shows ids padded store) {search : CardSearch}
    (hscope : search.scope ≠ .all) :
    padded.lookup search = store.lookup search := by
  obtain ⟨hother, hstore⟩ | ⟨_, _, hother, hstore, hshows⟩ := h.tables_cases
  · rw [lookup, lookup, hother, hstore]
  · rw [lookup, lookup, hother, hstore]
    simp only [hshows.find_eq hscope]

end Store.Shows

namespace Answer

open Store

theorem stats_eq_of_shows {ids : List String} {padded store : Store}
    (h : Store.Shows ids padded store)
    {settings : AnswerSettings} {text : String}
    (hshort : settings.isExpired = false →
      ∀ needle ∈ (Plan.ofQuery (Match.ofText text).query).needles, Sql.isTooLong needle = false)
    (hcolumns : ∀ request ∈ (Match.ofText text).requests, Text.folded request.column ≠ "printing") :
    stats padded settings text = stats store settings text := by
  have hanswers : answers padded settings (Match.ofText text) =
      answers store settings (Match.ofText text) := by
    unfold answers execute
    split
    · rfl
    · rename_i hrunning
      have hneedles := hshort (Bool.eq_false_iff.mpr hrunning)
      rw [List.map_map, List.map_map]
      apply List.map_congr_left
      intro request hrequest
      simp only [Function.comp_apply, h.aggregate_eq hneedles (hcolumns request hrequest)]
  simp only [stats, hanswers]

/-- **Main theorem.** Take any history of a store, and the same history with placeholders among the
    operations of its transactions, or in transactions of their own, under ids that the history does
    not have. A match text that does not ask for the row numbers, and looks for nothing that is too
    long unless the time is up, is answered by both stores alike, and so is a lookup that does not
    ask for all sets. Neither has the index to be complete, nor do the ids have to be distinct. -/
theorem placeholders_unseen {medium : Medium} {steps others : List Step}
    (h : PaddedSteps (cardIds steps) steps others) :
    (∀ settings text,
      (settings.isExpired = false →
        ∀ needle ∈ (Plan.ofQuery (Match.ofText text).query).needles, Sql.isTooLong needle = false) →
      (∀ request ∈ (Match.ofText text).requests, Text.folded request.column ≠ "printing") →
      stats (after { medium } others) settings text =
        stats (after { medium } steps) settings text) ∧
    ∀ search : CardSearch, search.scope ≠ .all →
      (after { medium } others).lookup search = (after { medium } steps).lookup search := by
  have hshows : Store.Shows (cardIds steps) (after { medium } others) (after { medium } steps) :=
    shows_after h
  exact ⟨fun _ _ hshort hcolumns => stats_eq_of_shows hshows hshort hcolumns,
    fun _ hscope => hshows.lookup_eq hscope⟩

/-- Two printings of a name, and the index over them. -/
def reprintSteps : List Step :=
  [.migrate,
    .write [.addPrinting "LEA" { id := "1", name := "Ember", multiverseId := 7 },
      .addPrinting "LEB" { id := "2", name := "Ember", multiverseId := 8 }],
    .write [.rebuildIndex]]

/-- The same with placeholders before, between and after the printings, one of them of the same name
    and set. -/
def paddedReprintSteps : List Step :=
  [.migrate,
    .write [.addPrinting "LEA" { id := "0", name := "Ember" },
      .addPrinting "LEA" { id := "1", name := "Ember", multiverseId := 7 },
      .addPrinting "ICE" { id := "0", name := "Frost", colors := { blue := true } },
      .addPrinting "LEB" { id := "2", name := "Ember", multiverseId := 8 }],
    .write [.addPrinting "ICE" { id := "3", name := "Ember Frost", types := ["creature"] }],
    .write [.rebuildIndex]]

theorem placeholders_unseen_shifted :
    PaddedSteps (cardIds reprintSteps) reprintSteps paddedReprintSteps ∧
    (∀ request ∈ (Match.ofText "name:ember,count:id,max:multiverseid").requests,
      Text.folded request.column ≠ "printing") ∧
    stats (after { medium := .file } paddedReprintSteps) ⟨"", 2000, true⟩
      "name:ember,count:id,max:multiverseid" =
      stats (after { medium := .file } reprintSteps) ⟨"", 2000, true⟩
        "name:ember,count:id,max:multiverseid" ∧
    (after { medium := .file } paddedReprintSteps).lookup ⟨"ember", .any⟩ =
      (after { medium := .file } reprintSteps).lookup ⟨"ember", .any⟩ := by
  have hpadded : PaddedSteps (cardIds reprintSteps) reprintSteps paddedReprintSteps := by
    refine .shared .migrate (.write ?_ (.placeholders ?_ (.shared _ .nil)))
    · exact .placeholder "LEA" (by decide) rfl
        (.shared _ (.placeholder "ICE" (by decide) rfl (.shared _ .nil)))
    · exact .placeholder "ICE" (by decide) rfl .nil
  have hcolumns : ∀ request ∈ (Match.ofText "name:ember,count:id,max:multiverseid").requests,
      Text.folded request.column ≠ "printing" := by decide +kernel
  obtain ⟨hstats, hlookup⟩ := @placeholders_unseen .file _ _ hpadded
  have hshort : ∀ needle ∈
      (Plan.ofQuery (Match.ofText "name:ember,count:id,max:multiverseid").query).needles,
      Sql.isTooLong needle = false := by decide +kernel
  exact ⟨hpadded, hcolumns, hstats _ _ (fun _ => hshort) hcolumns, hlookup ⟨"ember", .any⟩ nofun⟩

/-- A query for a needle that is too long can be written. -/
theorem isPlain_riskyQuery : Sql.riskyQuery.IsPlain := by
  have hz : ∀ c ∈ Sql.longNeedle.toList, c = 'z' := by
    rw [Sql.toList_longNeedle]
    exact fun c hc => List.eq_of_mem_replicate hc
  have hlong : Clause.IsValue Sql.longNeedle := by
    refine ⟨fun hcomma => ?_, fun hbar => ?_, Text.trim_eq_self fun c hc => ?_⟩
    · exact absurd (hz _ hcomma) (by decide)
    · exact absurd (hz _ hbar) (by decide)
    · rw [hz c hc]
      decide
  refine ⟨List.nodup_singleton _, List.forall_mem_singleton.mpr
    ⟨by decide, List.cons_ne_nil _ _, ?_⟩⟩
  intro term hterm
  rcases List.mem_pair.mp hterm with rfl | rfl
  · decide
  · exact hlong

/-- A store without cards. -/
def bareSteps : List Step :=
  [.migrate, .write [.rebuildIndex]]

/-- The same with a placeholder. -/
def maskedSteps : List Step :=
  [.migrate, .write [.addPrinting "LEA" { id := "0", name := "Ember" }, .rebuildIndex]]

/-- A needle that is too long does tell: a store without cards counts none, and with a placeholder
    the count fails. -/
theorem placeholder_seen :
    PaddedSteps (cardIds bareSteps) bareSteps maskedSteps ∧
    stats (after {} bareSteps) lenientSettings (Sql.riskyQuery.write []) = ["Count id: 0"] ∧
    stats (after {} maskedSteps) lenientSettings (Sql.riskyQuery.write []) =
      ["Count id: failed (LIKE or GLOB pattern too complex)"] := by
  have hne : Sql.riskyQuery.fields ≠ [] := List.cons_ne_nil _ _
  refine ⟨.shared .migrate (.write (.placeholder "LEA" (by decide) rfl (.shared _ .nil)) .nil), ?_,
    ?_⟩
  · have hcount : (after {} bareSteps).aggregate (.ofQuery Sql.riskyQuery) .standard =
        .ok ⟨.integer 0, none⟩ := by
      rw [Request.standard, count_riskyQuery rfl, if_pos (by decide)]
      decide +kernel
    rw [stats_writeQuery rfl _ isPlain_riskyQuery hne, lineFor, hcount]
    decide
  · have hrefused : (after {} maskedSteps).aggregate (.ofQuery Sql.riskyQuery) .standard =
        .error (.table (.exceeded .pattern)) := by
      rw [Request.standard, count_riskyQuery rfl, if_neg (by decide)]
    rw [stats_writeQuery rfl _ isPlain_riskyQuery hne, lineFor, hrefused]
    decide

end Answer

end CardCensus
