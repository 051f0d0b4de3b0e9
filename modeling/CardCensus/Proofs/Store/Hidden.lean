import CardCensus.Proofs.Store.Addition
import CardCensus.Proofs.Store.History

/-!
# Placeholders among the printings

A history of a store can be padded with placeholders: in some of its transactions, and in further
ones, printings without a picture are added under ids that the history does not have. All tables of
the padded store, row numbers apart, are those of the other with rows of such ids in between.

Results:
* `AgreeOn.add`, `AgreeOn.put` and so on: what one write does to a table with rows in between.
* `Tables.Shows.effect`, `Tables.Shows.addPrinting_hidden`: the tables after a shared operation and
  after a placeholder.
* `shows_after`: the tables after whole histories.
-/

namespace CardCensus.Store

/-! ## One table -/

/-- Of the rows of the padded table, those with one of the ids are the rows of the other. -/
def AgreeOn {α : Type} (ids : List String) (key : α → String) (padded table : Table α) : Prop :=
  padded.entries.filter (fun row => decide (key row ∈ ids)) = table.entries

namespace AgreeOn

variable {α : Type} {ids : List String} {key : α → String} {padded table : Table α}

theorem empty : AgreeOn ids key .empty .empty := rfl

theorem add (h : AgreeOn ids key padded table) {row : α} (hrow : key row ∈ ids) :
    AgreeOn ids key (padded.add row) (table.add row) := by
  unfold AgreeOn at h ⊢
  simp [h, hrow]

theorem add_hidden (h : AgreeOn ids key padded table) {row : α} (hrow : key row ∉ ids) :
    AgreeOn ids key (padded.add row) table := by
  unfold AgreeOn at h ⊢
  simp [h, hrow]

theorem addAll (h : AgreeOn ids key padded table) {rows : List α}
    (hrows : ∀ row ∈ rows, key row ∈ ids) :
    AgreeOn ids key (padded.addAll rows) (table.addAll rows) := by
  have hkept : rows.filter (fun row => decide (key row ∈ ids)) = rows := by
    simpa using hrows
  unfold AgreeOn at h ⊢
  rw [Table.entries_addAll, Table.entries_addAll, List.filter_append, h, hkept]

theorem addAll_hidden (h : AgreeOn ids key padded table) {rows : List α}
    (hrows : ∀ row ∈ rows, key row ∉ ids) : AgreeOn ids key (padded.addAll rows) table := by
  have hdropped : rows.filter (fun row => decide (key row ∈ ids)) = [] := by
    simpa using hrows
  unfold AgreeOn at h ⊢
  rw [Table.entries_addAll, List.filter_append, h, hdropped, List.append_nil]

/-- The row that is put takes the place of the same rows in both tables. -/
theorem put (h : AgreeOn ids key padded table) {row : α} (hrow : key row ∈ ids) :
    AgreeOn ids key (padded.put key row) (table.put key row) := by
  unfold AgreeOn at h ⊢
  rw [Table.entries_put, Table.entries_put, List.filter_append, List.filter_filter, ← h,
    List.filter_filter]
  simp only [Bool.and_comm]
  simp [hrow]

/-- A hidden row that is put takes the place of hidden rows only. -/
theorem put_hidden (h : AgreeOn ids key padded table) {row : α} (hrow : key row ∉ ids) :
    AgreeOn ids key (padded.put key row) table := by
  have hkept : ∀ other ∈ padded.entries,
      (decide (key other ∈ ids) && key other != key row) = decide (key other ∈ ids) := by
    intro other _
    by_cases hother : key other ∈ ids
    · have hne : key other ≠ key row := fun heq => hrow (heq ▸ hother)
      simp [hne]
    · simp [hother]
  unfold AgreeOn at h ⊢
  rw [Table.entries_put, List.filter_append, List.filter_filter, List.filter_congr hkept, h]
  simp [hrow]

/-- A test that only rows with one of the ids pass finds the same rows in both tables. -/
theorem filter_eq (h : AgreeOn ids key padded table) {test : α → Bool}
    (htest : ∀ row, test row = true → key row ∈ ids) :
    padded.entries.filter test = table.entries.filter test := by
  unfold AgreeOn at h
  rw [← h, List.filter_filter]
  apply List.filter_congr
  intro row _
  cases hrow : test row with
  | false => rfl
  | true => simp [htest row hrow]

end AgreeOn

/-! ## All tables -/

/-- Apart from rows of placeholders, which have none of the ids, the padded tables are
    the others. -/
structure Tables.Shows (ids : List String) (padded tables : Tables) : Prop where
  cards : AgreeOn ids CardRow.id padded.cards tables.cards
  memberships : AgreeOn ids MembershipRow.id padded.memberships tables.memberships
  colors : AgreeOn ids ColorRow.id padded.colors tables.colors
  identities : AgreeOn ids ColorRow.id padded.identities tables.identities
  axisRows : ∀ axis, AgreeOn ids AxisRow.id (padded.axisRows axis) (tables.axisRows axis)
  names : AgreeOn ids NameRow.id padded.names tables.names
  pictured : ∀ row ∈ padded.cards.entries, row.id ∉ ids → row.multiverseId = 0

/-- The id that an operation adds a printing under. -/
def Operation.cardId? : Operation → Option String
  | addPrinting _ card => some card.id
  | _ => none

namespace Tables.Shows

variable {ids : List String} {padded tables : Tables}

theorem empty (ids : List String) : Shows ids {} {} where
  cards := .empty
  memberships := .empty
  colors := .empty
  identities := .empty
  axisRows axis := by cases axis <;> exact .empty
  names := .empty
  pictured _ hrow := nomatch hrow

theorem axisRows_addPrinting_eq_addAll (tables : Tables) (setCode : String) (card : Card)
    (axis : Axis) :
    (tables.addPrinting setCode card).axisRows axis =
      (tables.axisRows axis).addAll (axisRowsOf card.id (card.valuesOn axis)) := by
  cases axis <;> rfl

theorem addPrinting (h : Shows ids padded tables) (setCode : String) {card : Card}
    (hid : card.id ∈ ids) :
    Shows ids (padded.addPrinting setCode card) (tables.addPrinting setCode card) where
  cards := h.cards.add hid
  memberships := h.memberships.add hid
  colors := h.colors.put hid
  identities := h.identities.put hid
  axisRows axis := by
    rw [axisRows_addPrinting_eq_addAll, axisRows_addPrinting_eq_addAll]
    refine (h.axisRows axis).addAll fun row hrow => ?_
    obtain ⟨value, -, rfl⟩ := List.mem_map.mp hrow
    exact hid
  names := h.names
  pictured row hrow hnot := by
    simp only [Tables.addPrinting, Table.entries_add, List.mem_append, List.mem_singleton] at hrow
    rcases hrow with hrow | rfl
    · exact h.pictured row hrow hnot
    · exact absurd hid hnot

/-- **Step.** A placeholder is not seen among the rows of the ids. -/
theorem addPrinting_hidden (h : Shows ids padded tables) (setCode : String) {card : Card}
    (hid : card.id ∉ ids)
    (hpicture : card.multiverseId = 0) : Shows ids (padded.addPrinting setCode card) tables where
  cards := h.cards.add_hidden hid
  memberships := h.memberships.add_hidden hid
  colors := h.colors.put_hidden hid
  identities := h.identities.put_hidden hid
  axisRows axis := by
    rw [axisRows_addPrinting_eq_addAll]
    refine (h.axisRows axis).addAll_hidden fun row hrow => ?_
    obtain ⟨value, -, rfl⟩ := List.mem_map.mp hrow
    exact hid
  names := h.names
  pictured row hrow hnot := by
    simp only [Tables.addPrinting, Table.entries_add, List.mem_append, List.mem_singleton] at hrow
    rcases hrow with hrow | rfl
    · exact h.pictured row hrow hnot
    · exact hpicture

theorem rebuildIndex (h : Shows ids padded tables) :
    Shows ids padded.rebuildIndex tables.rebuildIndex where
  cards := h.cards
  memberships := h.memberships
  colors := h.colors
  identities := h.identities
  axisRows := h.axisRows
  names := by
    have hcards : padded.cards.entries.filter (fun row => decide (row.id ∈ ids)) =
        tables.cards.entries := h.cards
    unfold AgreeOn Tables.rebuildIndex
    rw [Table.entries_ofEntries, Table.entries_ofEntries, List.filter_map, ← hcards]
    rfl
  pictured := h.pictured

/-- **Step.** An operation that both stores go through does the same to the rows of the ids. -/
theorem effect (h : Shows ids padded tables) {operation : Operation}
    (hid : ∀ id ∈ operation.cardId?, id ∈ ids) :
    Shows ids (operation.effect padded) (operation.effect tables) := by
  cases operation with
  | clear =>
    rw [Operation.effect, Operation.effect, Tables.clear_eq, Tables.clear_eq]
    exact empty ids
  | putSet set =>
    exact ⟨h.cards, h.memberships, h.colors, h.identities, h.axisRows, h.names, h.pictured⟩
  | addPrinting setCode card => exact h.addPrinting setCode (hid card.id rfl)
  | rebuildIndex => exact h.rebuildIndex
  | refuse cause => exact h

end Tables.Shows

/-! ## Transactions -/

/-- The second list has the operations of the first in their order, and among them placeholders
    under ids that are none of the given ones. -/
inductive Padded (ids : List String) : List Operation → List Operation → Prop
  | nil : Padded ids [] []
  | shared {operations others : List Operation} (operation : Operation) :
    Padded ids operations others → Padded ids (operation :: operations) (operation :: others)
  | placeholder {operations others : List Operation} {card : Card} (setCode : String)
    (fresh : card.id ∉ ids)
    (picture : card.multiverseId = 0) :
    Padded ids operations others → Padded ids operations (.addPrinting setCode card :: others)

namespace Padded

variable {ids : List String} {operations others : List Operation}

theorem refl (ids : List String) : ∀ operations : List Operation, Padded ids operations operations
  | [] => .nil
  | operation :: rest => .shared operation (refl ids rest)

theorem forall_isSteady_iff (h : Padded ids operations others) :
    (∀ operation ∈ others, operation.IsSteady) ↔ ∀ operation ∈ operations, operation.IsSteady := by
  induction h with
  | nil => exact Iff.rfl
  | shared operation _ ih => rw [List.forall_mem_cons, List.forall_mem_cons, ih]
  | placeholder setCode _ _ _ ih =>
    rw [List.forall_mem_cons, ih]
    exact and_iff_right True.intro

/-- **Run.** Padded operations do the same to the rows of the ids. -/
theorem shows_foldl (h : Padded ids operations others)
    (hids : ∀ operation ∈ operations, ∀ id ∈ operation.cardId?, id ∈ ids) {padded tables : Tables}
    (hshows : Tables.Shows ids padded tables) :
    Tables.Shows ids (others.foldl Operation.effect padded)
      (operations.foldl Operation.effect tables) := by
  induction h generalizing padded tables with
  | nil => exact hshows
  | shared operation _ ih =>
    rw [List.forall_mem_cons] at hids
    exact ih hids.2 (hshows.effect hids.1)
  | placeholder setCode fresh picture _ ih =>
    exact ih hids (hshows.addPrinting_hidden setCode fresh picture)

end Padded

/-! ## Histories -/

/-- The operations of a step. -/
def Step.operations : Step → List Operation
  | write operations => operations
  | take sets => sets.operations
  | migrate | reopen => []

/-- The ids that printings are added under in the steps. -/
def cardIds (steps : List Step) : List String :=
  (steps.flatMap Step.operations).filterMap Operation.cardId?

/-- The second history has the steps of the first in their order. Some of its transactions are
    padded with placeholders under ids that are none of the given ones, and some consist of such
    placeholders. -/
inductive PaddedSteps (ids : List String) : List Step → List Step → Prop
  | nil : PaddedSteps ids [] []
  | shared {steps others : List Step} (step : Step) :
    PaddedSteps ids steps others → PaddedSteps ids (step :: steps) (step :: others)
  | write {steps others : List Step} {operations padded : List Operation} :
    Padded ids operations padded → PaddedSteps ids steps others →
    PaddedSteps ids (.write operations :: steps) (.write padded :: others)
  | placeholders {steps others : List Step} {padded : List Operation} :
    Padded ids [] padded → PaddedSteps ids steps others →
      PaddedSteps ids steps (.write padded :: others)

/-- A store without tables has none after a transaction. -/
theorem tables_write_none {store : Store} (h : store.tables = none) (operations : List Operation) :
    (store.write operations).1.tables = none := by
  unfold write
  rw [h]
  cases operations with
  | nil => rfl
  | cons operation rest => exact h

theorem tables_write_of_steady {store : Store} {tables : Tables} (h : store.tables = some tables)
    {operations : List Operation} (hsteady : ∀ operation ∈ operations, operation.IsSteady) :
    (store.write operations).1.tables = some (operations.foldl Operation.effect tables) := by
  have hrun :
      runAll store.tables operations = .ok (some (operations.foldl Operation.effect tables)) := by
    rw [h, runAll_some_eq_ok_iff]
    exact ⟨hsteady, rfl⟩
  rw [write_eq_ok hrun]

theorem write_of_not_steady {store : Store} {tables : Tables} (h : store.tables = some tables)
    {operations : List Operation} (hsteady : ¬ ∀ operation ∈ operations, operation.IsSteady) :
    (store.write operations).1 = store := by
  cases hrun : runAll store.tables operations with
  | error cause => rw [write_eq_error hrun]
  | ok result =>
    rw [h, runAll_some_eq_ok_iff] at hrun
    exact absurd hrun.1 hsteady

@[simp] theorem medium_write (store : Store) (operations : List Operation) :
    (store.write operations).1.medium = store.medium := by
  unfold write
  split <;> rfl

/-- Apart from placeholders under other ids, the padded store is the other. -/
structure Shows (ids : List String) (padded store : Store) : Prop where
  medium : padded.medium = store.medium
  tables : Option.Rel (Tables.Shows ids) padded.tables store.tables

namespace Shows

variable {ids : List String} {padded store : Store}

/-- Both stores have tables, or neither has. -/
theorem tables_cases (h : Shows ids padded store) :
    (padded.tables = none ∧ store.tables = none) ∨ ∃ others tables,
      padded.tables = some others ∧ store.tables = some tables ∧
        Tables.Shows ids others tables := by
  obtain ⟨_, paddedTables⟩ := padded
  obtain ⟨_, tables⟩ := store
  cases h.tables with
  | none => exact .inl ⟨rfl, rfl⟩
  | some hshows => exact .inr ⟨_, _, rfl, rfl, hshows⟩

/-- **Step.** A transaction and its padded form: both succeed or both fail. -/
theorem write (h : Shows ids padded store) {operations others : List Operation}
    (hpadded : Padded ids operations others)
    (hids : ∀ operation ∈ operations, ∀ id ∈ operation.cardId?, id ∈ ids) :
    Shows ids (padded.write others).1 (store.write operations).1 := by
  refine ⟨by rw [medium_write, medium_write, h.medium], ?_⟩
  obtain ⟨hother, hstore⟩ | ⟨_, _, hother, hstore, hshows⟩ := h.tables_cases
  · rw [tables_write_none hother, tables_write_none hstore]
    exact .none
  · by_cases hsteady : ∀ operation ∈ operations, operation.IsSteady
    · rw [tables_write_of_steady hother (hpadded.forall_isSteady_iff.mpr hsteady),
        tables_write_of_steady hstore hsteady]
      exact .some (hpadded.shows_foldl hids hshows)
    · have hsteady' := mt hpadded.forall_isSteady_iff.mp hsteady
      rw [write_of_not_steady hother hsteady', write_of_not_steady hstore hsteady, hother, hstore]
      exact .some hshows

/-- **Step.** A step that both stores go through. -/
theorem run (h : Shows ids padded store) {step : Step}
    (hids : ∀ operation ∈ step.operations, ∀ id ∈ operation.cardId?, id ∈ ids) :
    Shows ids (step.run padded) (step.run store) := by
  cases step with
  | write operations => exact h.write (.refl ids operations) hids
  | migrate =>
    refine ⟨h.medium, ?_⟩
    show Option.Rel _ (some (padded.tables.getD {})) (some (store.tables.getD {}))
    obtain ⟨hother, hstore⟩ | ⟨_, _, hother, hstore, hshows⟩ := h.tables_cases
    · rw [hother, hstore]
      exact .some (.empty ids)
    · rw [hother, hstore]
      exact .some hshows
  | take sets =>
    refine ⟨?_, ?_⟩
    · simp only [Step.run, take_eq, h.medium]
    · simp only [Step.run, take_eq]
      exact .some ((Padded.refl ids sets.operations).shows_foldl hids (.empty ids))
  | reopen =>
    simp only [Step.run, reopen, h.medium]
    cases store.medium with
    | memory => exact ⟨rfl, .none⟩
    | file => exact h

/-- **Run.** A history and its padded form. -/
theorem after (h : Shows ids padded store) {steps others : List Step}
    (hsteps : PaddedSteps ids steps others)
    (hids : ∀ id ∈ cardIds steps, id ∈ ids) :
    Shows ids (padded.after others) (store.after steps) := by
  have hhead : ∀ {step : Step} {rest : List Step}, (∀ id ∈ cardIds (step :: rest), id ∈ ids) →
      (∀ operation ∈ step.operations, ∀ id ∈ operation.cardId?, id ∈ ids) ∧
        ∀ id ∈ cardIds rest, id ∈ ids := by
    intro step rest hall
    rw [cardIds, List.flatMap_cons, List.filterMap_append, List.forall_mem_append] at hall
    refine ⟨fun operation hmem id hid => hall.1 id ?_, hall.2⟩
    exact List.mem_filterMap.mpr ⟨operation, hmem, hid⟩
  induction hsteps generalizing padded store with
  | nil => exact h
  | shared step _ ih => exact ih (h.run (hhead hids).1) (hhead hids).2
  | write hpadded _ ih => exact ih (h.write hpadded (hhead hids).1) (hhead hids).2
  | placeholders hpadded _ ih =>
    have hsame : Shows ids (padded.write _).1 (store.write []).1 :=
      h.write hpadded fun _ hmem => nomatch hmem
    exact ih hsame hids

end Shows

/-- The stores after a history and its padded form. -/
theorem shows_after {medium : Medium} {steps others : List Step}
    (h : PaddedSteps (cardIds steps) steps others) :
    Shows (cardIds steps) (after { medium } others) (after { medium } steps) :=
  Shows.after ⟨rfl, .none⟩ h fun _ hid => hid

end CardCensus.Store
