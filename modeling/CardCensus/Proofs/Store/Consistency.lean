import CardCensus.Proofs.Store.Addition
import CardCensus.Proofs.Store.History

/-!
# The tables agree with each other

The nine tables are written by statements that know nothing of each other: some add rows, some put
rows in the place of others, and any of them may be cut short by a failure. Still they agree at all
times on which cards there are. Ids need not be distinct: two cards with one id have two rows in the
table of cards and one in each table of colours.

Results:
* `consistent_invariant`: each operation keeps the tables consistent.
* `reachable_consistent`: the tables of every reachable store are consistent.
-/

namespace CardCensus.Store

/-! ## What is to hold -/

/-- The ids of the cards in the order of their row numbers. -/
def Tables.ids (tables : Tables) : List String :=
  tables.cards.entries.map (·.id)

/-- The flags are zeros and ones, and the one for no colour is set exactly when no other is. -/
structure ColorRow.Proper (row : ColorRow) : Prop where
  flags : ∀ n ∈ row.flags, n = 0 ∨ n = 1
  colorless : row.colorless = 1 ↔
    row.white = 0 ∧ row.blue = 0 ∧ row.black = 0 ∧ row.red = 0 ∧ row.green = 0

/-- The table has one row for each of the ids and no others, and the flags of its rows
    are proper. -/
structure ColorsOf (ids : List String) (table : Table ColorRow) : Prop where
  nodup : (table.entries.map (·.id)).Nodup
  mem_iff : ∀ id, id ∈ table.entries.map (·.id) ↔ id ∈ ids
  proper : ∀ row ∈ table.entries, row.Proper

/-- The tables agree on which cards there are. -/
structure Tables.Consistent (tables : Tables) : Prop where
  /-- Cards and their sets stand side by side. -/
  memberships : tables.memberships.entries.map (·.id) = tables.ids
  colors : ColorsOf tables.ids tables.colors
  identities : ColorsOf tables.ids tables.identities
  /-- Nothing but a card has values on an axis. -/
  axisRows : ∀ axis, ∀ row ∈ (tables.axisRows axis).entries, row.id ∈ tables.ids
  /-- The word index covers the cards up to some row number, in order. -/
  names : tables.names.entries <+: tables.cards.entries.map Tables.nameRow

/-! ## Rows put by key -/

theorem mem_keys_put {α : Type} {key : α → String} {table : Table α} {row : α} {k : String} :
    k ∈ (table.put key row).entries.map key ↔ k = key row ∨ k ∈ table.entries.map key := by
  rw [Table.entries_put, List.map_append, List.mem_append, List.map_singleton, List.mem_singleton]
  by_cases hk : k = key row
  · simp [hk]
  · have hkept : k ∈ (table.entries.filter fun other => key other != key row).map key ↔
        k ∈ table.entries.map key := by
      simp only [List.mem_map, List.mem_filter, bne_iff_ne]
      constructor
      · rintro ⟨other, ⟨hmem, -⟩, rfl⟩
        exact ⟨other, hmem, rfl⟩
      · rintro ⟨other, hmem, rfl⟩
        exact ⟨other, ⟨hmem, hk⟩, rfl⟩
    rw [hkept]
    simp [hk]

theorem nodup_keys_put {α : Type} {key : α → String} {table : Table α}
    (h : (table.entries.map key).Nodup) (row : α) :
    ((table.put key row).entries.map key).Nodup := by
  rw [Table.entries_put, List.map_append, List.map_singleton, List.nodup_append]
  refine ⟨h.sublist (List.filter_sublist.map key), by simp, ?_⟩
  intro a ha b hb
  obtain ⟨other, hother, rfl⟩ := List.mem_map.mp ha
  rw [List.mem_singleton] at hb
  subst hb
  simpa using (List.mem_filter.mp hother).2

theorem flag_eq_zero_iff {on : Bool} : flag on = 0 ↔ on = false := by
  cases on <;> decide

theorem flag_eq_one_iff {on : Bool} : flag on = 1 ↔ on = true := by
  cases on <;> decide

theorem flag_eq_zero_or_one (on : Bool) : flag on = 0 ∨ flag on = 1 := by
  cases on <;> decide

theorem isColorless_iff {mask : ColorMask} : mask.isColorless = true ↔
    mask.white = false ∧ mask.blue = false ∧ mask.black = false ∧ mask.red = false ∧
      mask.green = false := by
  simp [ColorMask.isColorless, Channel.all, ColorMask.has]

theorem proper_ofMask (id : String) (mask : ColorMask) : (ColorRow.ofMask id mask).Proper := by
  constructor
  · intro n hn
    simp only [ColorRow.flags, ColorRow.ofMask, List.mem_cons, List.not_mem_nil, or_false] at hn
    rcases hn with rfl | rfl | rfl | rfl | rfl | rfl <;> exact flag_eq_zero_or_one _
  · simp only [ColorRow.ofMask, flag_eq_zero_iff, flag_eq_one_iff]
    exact isColorless_iff

theorem ColorsOf.put {ids : List String} {table : Table ColorRow} (h : ColorsOf ids table)
    (id : String)
    (mask : ColorMask) : ColorsOf (ids ++ [id]) (table.put ColorRow.id (.ofMask id mask)) where
  nodup := nodup_keys_put h.nodup _
  mem_iff k := by
    rw [mem_keys_put, h.mem_iff k, List.mem_append, List.mem_singleton]
    exact or_comm
  proper row hrow := by
    rw [Table.entries_put, List.mem_append, List.mem_singleton] at hrow
    rcases hrow with hrow | rfl
    · exact h.proper row (List.mem_filter.mp hrow).1
    · exact proper_ofMask id mask

/-! ## What each operation keeps -/

@[simp] theorem ids_addPrinting (tables : Tables) (setCode : String) (card : Card) :
    (tables.addPrinting setCode card).ids = tables.ids ++ [card.id] := by
  simp [Tables.ids, Tables.addPrinting, CardRow.ofCard]

theorem Tables.Consistent.addPrinting {tables : Tables} (h : tables.Consistent) (setCode : String)
    (card : Card) : (tables.addPrinting setCode card).Consistent where
  memberships := by
    rw [ids_addPrinting, ← h.memberships]
    simp [Tables.addPrinting]
  colors := by
    rw [ids_addPrinting]
    exact h.colors.put card.id card.colors
  identities := by
    rw [ids_addPrinting]
    exact h.identities.put card.id card.colorIdentity
  axisRows axis row hrow := by
    rw [ids_addPrinting, List.mem_append, List.mem_singleton]
    rw [axisRows_addPrinting, List.mem_append] at hrow
    rcases hrow with hrow | hrow
    · exact Or.inl (h.axisRows axis row hrow)
    · obtain ⟨value, -, rfl⟩ := List.mem_map.mp hrow
      exact Or.inr rfl
  names := by
    simp only [Tables.addPrinting, Table.entries_add, List.map_append]
    exact h.names.trans (List.prefix_append _ _)

theorem Tables.Consistent.rebuildIndex {tables : Tables} (h : tables.Consistent) :
    tables.rebuildIndex.Consistent where
  memberships := h.memberships
  colors := h.colors
  identities := h.identities
  axisRows := h.axisRows
  names := by
    have hnames : tables.rebuildIndex.names.entries = tables.cards.entries.map Tables.nameRow :=
      Table.entries_ofEntries _
    exact ⟨[], (List.append_nil _).trans hnames⟩

theorem Tables.Consistent.putSet {tables : Tables} (h : tables.Consistent) (set : CardSet) :
    (tables.putSet set).Consistent where
  memberships := h.memberships
  colors := h.colors
  identities := h.identities
  axisRows := h.axisRows
  names := h.names

theorem consistent_empty : Tables.Consistent {} where
  memberships := rfl
  colors := ⟨List.nodup_nil, fun _ => Iff.rfl, fun _ hrow => nomatch hrow⟩
  identities := ⟨List.nodup_nil, fun _ => Iff.rfl, fun _ hrow => nomatch hrow⟩
  axisRows axis row hrow := by cases axis <;> cases hrow
  names := List.prefix_rfl

/-- **Step.** Each operation keeps the tables consistent. -/
theorem consistent_invariant : Invariant Tables.Consistent where
  empty := consistent_empty
  effect h operation := by
    cases operation with
    | clear =>
      rw [Operation.effect, Tables.clear_eq]
      exact consistent_empty
    | putSet set => exact h.putSet set
    | addPrinting setCode card => exact h.addPrinting setCode card
    | rebuildIndex => exact h.rebuildIndex
    | refuse cause => exact h

/-- **Run.** However a store came about, its tables are consistent once they are there. -/
theorem reachable_consistent {store : Store} (hr : Reachable store) {tables : Tables}
    (ht : store.tables = some tables) : tables.Consistent :=
  consistent_invariant.of_reachable hr ht

/-- Two printings of one id and different colours, the index drawn up between them, a failure behind
    a clear, and a closing. -/
def eventfulSteps : List Step :=
  [.migrate,
    .write
      [.addPrinting "A"
        { id := "1", name := "Ember", colors := { red := true }, types := ["Instant"] },
      .rebuildIndex, .addPrinting "B" { id := "1", name := "Frost", colors := { blue := true } }],
    .write [.clear, .putSet { code := "C", name := "Third" }, .refuse (.invalidColumn "c")],
    .reopen]

theorem reachable_consistent_eventful :
    ∃ tables, Reachable (after { medium := .file } eventfulSteps) ∧
    (after { medium := .file } eventfulSteps).tables = some tables ∧
    tables.ids = ["1", "1"] ∧ tables.colors.entries.length = 1 ∧ tables.names.entries.length = 1 ∧
    tables.Consistent :=
  ⟨_, ⟨.file, eventfulSteps, rfl⟩, rfl, by decide, by decide, by decide,
    reachable_consistent ⟨.file, eventfulSteps, rfl⟩ rfl⟩

end CardCensus.Store
