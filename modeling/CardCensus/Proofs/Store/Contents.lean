import CardCensus.Proofs.Store.Consistency
import CardCensus.Proofs.Store.Printings

/-!
# What an export leaves in the tables

An export is taken set by set and printing by printing, into tables that treat a new row in two
ways. Most of them add it at the end, so that they list what came in the order in which it came. The
tables of sets and of colours put it in the place of a row with the same key, so that of all rows
with one key the last is left. What the tables hold after some operations is therefore told by what
came, and a promotional set never comes.

Results:
* `KeepsLast.put`: a table into which rows are put keeps the last row of each key.
* `foldl_printings`, `foldl_recordedSets`: what comes while an export is taken.
* `take_writes_export`: the nine tables after an export.
-/

namespace CardCensus.Store

/-! ## Rows put by key -/

section Keyed

variable {α : Type} {key : α → String} {rows : List α} {table : Table α}

/-- The last of the rows with a key. -/
def lastWith? (key : α → String) (rows : List α) (k : String) : Option α :=
  rows.reverse.find? fun row => key row == k

/-- The table holds one row for each key that the rows have, and it is the last one with
    that key. -/
structure KeepsLast (key : α → String) (rows : List α) (table : Table α) : Prop where
  nodup : (table.entries.map key).Nodup
  keys : ∀ k, k ∈ table.entries.map key ↔ k ∈ rows.map key
  last : ∀ row ∈ table.entries, lastWith? key rows (key row) = some row

theorem lastWith?_append_singleton (key : α → String) (rows : List α) (row : α) (k : String) :
    lastWith? key (rows ++ [row]) k = if key row = k then some row else lastWith? key rows k := by
  rw [lastWith?, List.reverse_append, List.reverse_singleton, List.singleton_append,
    List.find?_cons]
  by_cases h : key row = k
  · rw [if_pos h, beq_iff_eq.mpr h]
  · rw [if_neg h, beq_eq_false_iff_ne.mpr h]
    rfl

theorem keepsLast_empty (key : α → String) : KeepsLast key [] .empty where
  nodup := List.nodup_nil
  keys _ := Iff.rfl
  last _ hrow := nomatch hrow

/-- **Step.** A row that is put into the table becomes the last one with its key. -/
theorem KeepsLast.put (h : KeepsLast key rows table) (row : α) :
    KeepsLast key (rows ++ [row]) (table.put key row) where
  nodup := nodup_keys_put h.nodup row
  keys k := by
    rw [mem_keys_put, h.keys k, List.map_append, List.mem_append, List.map_singleton,
      List.mem_singleton]
    exact or_comm
  last other hother := by
    rw [lastWith?_append_singleton]
    rw [Table.entries_put, List.mem_append, List.mem_filter, List.mem_singleton] at hother
    rcases hother with ⟨hother, hkey⟩ | rfl
    · rw [if_neg (bne_iff_ne.mp hkey).symm]
      exact h.last other hother
    · exact if_pos rfl

end Keyed

/-- **Run.** The table of rows of colours that are put in one after the other keeps the last row of
    each card. -/
theorem keepsLast_colorTable (rows : List ColorRow) :
    KeepsLast ColorRow.id rows (colorTable rows) := by
  induction rows using List.reverseRecOn with
  | nil => exact keepsLast_empty ColorRow.id
  | append_singleton rows row ih =>
    rw [colorTable_append]
    exact ih.put row

/-! ## What comes while an export is taken -/

section Gathering

variable {α : Type} {account : Account (List α)} {brings : Operation → List α}

/-- The account is a list that starts anew with every clear and else grows by what each operation
    brings. -/
structure Account.Gathers (account : Account (List α)) (brings : Operation → List α) : Prop where
  clear : ∀ entry, account.next entry .clear = []
  next : ∀ entry operation, operation ≠ .clear → account.next entry operation =
    entry ++ brings operation

theorem Account.Gathers.foldl (h : account.Gathers brings) {operations : List Operation}
    (hclear : .clear ∉ operations) (entry : List α) :
    operations.foldl account.next entry = entry ++ operations.flatMap brings := by
  induction operations generalizing entry with
  | nil => exact (List.append_nil entry).symm
  | cons operation rest ih =>
    rw [List.mem_cons, not_or] at hclear
    rw [List.foldl_cons, h.next entry operation (Ne.symm hclear.1), ih hclear.2, List.flatMap_cons,
      List.append_assoc]

theorem clear_notMem_setOperations (set : Export.ExportedSet) :
    Operation.clear ∉ Export.setOperations set := by
  simp [Export.setOperations]

/-- An export clears the tables once, at the start, and then brings one set after the other. -/
theorem Account.Gathers.foldl_operations (h : account.Gathers brings) (sets : Export)
    (entry : List α) :
    sets.operations.foldl account.next entry =
      (sets.taken.flatMap fun set => (Export.setOperations set).flatMap brings) ++
        brings .rebuildIndex := by
  have hclear : Operation.clear ∉ sets.taken.flatMap Export.setOperations ++ [.rebuildIndex] := by
    simp [clear_notMem_setOperations]
  rw [Export.operations, List.cons_append, List.foldl_cons, h.clear, h.foldl hclear,
    List.nil_append,
    List.flatMap_append, List.flatMap_singleton, List.flatMap_assoc]

end Gathering

/-- The printing that an operation brings. -/
def Operation.printing : Operation → List Printing
  | addPrinting setCode card => [⟨setCode, card⟩]
  | _ => []

/-- The set that an operation brings. -/
def Operation.recordedSet : Operation → List CardSet
  | putSet set => [set]
  | _ => []

/-- The account of the sets that have been recorded, those included that others have taken the place
    of. -/
def recordedSets : Account (List CardSet) where
  start := []
  next recorded
    | .clear => []
    | operation => recorded ++ operation.recordedSet

/-- **Step.** The table of sets keeps the last of the recorded sets with each code. -/
theorem recordedSets_tell :
    recordedSets.Tells fun recorded tables => KeepsLast CardSet.code recorded tables.sets where
  empty := keepsLast_empty CardSet.code
  effect {recorded tables} h operation := by
    cases operation with
    | clear =>
      rw [Operation.effect, Tables.clear_eq]
      exact keepsLast_empty CardSet.code
    | putSet set => exact h.put set
    | addPrinting | rebuildIndex | refuse =>
      change KeepsLast CardSet.code (recorded ++ []) tables.sets
      rwa [List.append_nil]

theorem printings_gathers : printings.Gathers Operation.printing where
  clear _ := rfl
  next entry operation hclear := by
    cases operation with
    | clear => exact absurd rfl hclear
    | addPrinting => rfl
    | putSet | rebuildIndex | refuse => exact (List.append_nil entry).symm

theorem recordedSets_gathers : recordedSets.Gathers Operation.recordedSet where
  clear _ := rfl
  next _ operation hclear := by
    cases operation with
    | clear => exact absurd rfl hclear
    | putSet | addPrinting | rebuildIndex | refuse => rfl

/-- The printings of an export in order: those of each set that is taken, under the code of
    the set. -/
def exported (sets : Export) : List Printing :=
  sets.taken.flatMap fun set => set.toCards.map (Printing.mk set.code)

/-- The printings that come while an export is taken. -/
theorem foldl_printings (sets : Export) (held : List Printing) :
    sets.operations.foldl printings.next held = exported sets := by
  rw [printings_gathers.foldl_operations, exported]
  refine (List.append_nil _).trans (List.flatMap_congr fun set _ => ?_)
  rw [Export.setOperations, List.flatMap_cons, List.flatMap_map, List.map_eq_flatMap]
  rfl

/-- The sets that are recorded while an export is taken. -/
theorem foldl_recordedSets (sets : Export) (recorded : List CardSet) :
    sets.operations.foldl recordedSets.next recorded =
      sets.taken.map Export.ExportedSet.toCardSet := by
  rw [recordedSets_gathers.foldl_operations, List.map_eq_flatMap]
  refine (List.append_nil _).trans (List.flatMap_congr fun set _ => ?_)
  rw [Export.setOperations, List.flatMap_cons, List.flatMap_map]
  simp [Operation.recordedSet]

/-! ## Field by field -/

/-- A cell holds a number: the two are equal as doubles, where both zeros are one number. What is no
    number leaves the cell empty. -/
def HoldsNumber (cell : Option Float) (x : Float) : Prop :=
  match cell with
  | none => Number.isNotANumber x = true
  | some y => Number.isNotANumber x = false ∧ Number.isNotANumber y = false ∧
      Number.orderKey y = Number.orderKey x

theorem holdsNumber_storedReal (x : Float) : HoldsNumber (storedReal x) x := by
  unfold storedReal
  cases hx : Number.isNotANumber x with
  | true => exact hx
  | false =>
    by_cases hzero : Number.orderKey x = 0
    · rw [if_neg Bool.false_ne_true, if_pos hzero]
      exact ⟨hx, by decide, hzero.symm ▸ by decide⟩
    · rw [if_neg Bool.false_ne_true, if_neg hzero]
      exact ⟨hx, hx, rfl⟩

/-- The row says of a card what the card says of itself, field by field. -/
structure CardRow.Shows (row : CardRow) (card : Card) : Prop where
  id : row.id = card.id
  name : row.name = card.name
  manaCost : row.manaCost = card.manaCost
  cmc : HoldsNumber row.cmc card.cmc
  typeLine : row.typeLine = card.typeLine
  text : row.text = card.text
  flavor : row.flavor = card.flavor
  artist : row.artist = card.artist
  number : row.number = card.number
  power : row.power = card.power
  toughness : row.toughness = card.toughness
  loyalty : row.loyalty = card.loyalty
  multiverseId : row.multiverseId = card.multiverseId
  releaseDate : row.releaseDate = card.releaseDate

theorem shows_ofCard (card : Card) : (CardRow.ofCard card).Shows card where
  id := rfl
  name := rfl
  manaCost := rfl
  cmc := holdsNumber_storedReal card.cmc
  typeLine := rfl
  text := rfl
  flavor := rfl
  artist := rfl
  number := rfl
  power := rfl
  toughness := rfl
  loyalty := rfl
  multiverseId := rfl
  releaseDate := rfl

/-! ## The nine tables -/

/-- The nine tables hold an export. -/
structure Tables.Render (sets : Export) (tables : Tables) : Prop where
  /-- The rows of cards are numbered from one, -/
  numbers : tables.cards.rows.map (·.1) = List.range' 1 (exported sets).length
  /-- and show the cards of the export, one after the other. -/
  cards : List.Forall₂ CardRow.Shows tables.cards.entries ((exported sets).map Printing.card)
  memberships : tables.memberships.entries = (exported sets).map fun p => ⟨p.setCode, p.card.id⟩
  /-- A value that a card lists twice has two rows. -/
  axisRows : ∀ axis, (tables.axisRows axis).entries =
    (exported sets).flatMap fun p => (p.card.valuesOn axis).map fun value => ⟨p.card.id, value⟩
  colors : KeepsLast ColorRow.id ((exported sets).map fun p => .ofMask p.card.id p.card.colors)
    tables.colors
  identities :
    KeepsLast ColorRow.id ((exported sets).map fun p => .ofMask p.card.id p.card.colorIdentity)
      tables.identities
  sets : KeepsLast CardSet.code (sets.taken.map Export.ExportedSet.toCardSet) tables.sets
  /-- The word index has the id and the name of every card, under the number of the card. -/
  names : tables.names.rows = tables.cards.rows.map fun (number, row) =>
    (number, ⟨row.id, row.name⟩)

theorem Tables.Hold.shows {held : List Printing} {tables : Tables} (h : Tables.Hold held tables) :
    List.Forall₂ CardRow.Shows tables.cards.entries (held.map Printing.card) := by
  rw [h.cards, Table.entries_ofEntries, List.forall₂_map_left_iff, List.forall₂_map_right_iff,
    List.forall₂_same]
  exact fun printing _ => shows_ofCard printing.card

theorem Tables.Hold.numbers {held : List Printing} {tables : Tables} (h : Tables.Hold held tables) :
    tables.cards.rows.map (·.1) = List.range' 1 held.length := by
  rw [h.cards, Table.rows_ofEntries, List.map_map]
  change (((held.map Printing.row).zipIdx 1).map Prod.snd) = _
  rw [List.zipIdx_map_snd, List.length_map]

/-- The word index ends up with the names of all cards, since it is drawn up last. -/
theorem names_foldl_operations (sets : Export) :
    (sets.operations.foldl Operation.effect {}).names = .ofEntries
      ((sets.operations.foldl Operation.effect {}).cards.entries.map Tables.nameRow) := by
  rw [Export.operations, List.foldl_append]
  rfl

/-- The operations of an export leave the tables with its printings. -/
theorem hold_exported (sets : Export) :
    Tables.Hold (exported sets) (sets.operations.foldl Operation.effect {}) := by
  rw [← foldl_printings sets []]
  exact printings_tell.foldl hold_empty sets.operations

/-- **Run.** The operations of an export leave the tables with the export in them. -/
theorem render_foldl_operations (sets : Export) :
    Tables.Render sets (sets.operations.foldl Operation.effect {}) := by
  have hhold := hold_exported sets
  have hsets : KeepsLast CardSet.code (sets.taken.map Export.ExportedSet.toCardSet)
      (sets.operations.foldl Operation.effect {}).sets := by
    rw [← foldl_recordedSets sets []]
    exact recordedSets_tell.foldl recordedSets_tell.empty sets.operations
  have hnames := names_foldl_operations sets
  generalize sets.operations.foldl Operation.effect {} = tables at hhold hsets hnames
  refine {
    numbers := hhold.numbers
    cards := hhold.shows
    memberships := by rw [hhold.memberships, Table.entries_ofEntries]; rfl
    axisRows := fun axis => by rw [hhold.axisRows axis, Table.entries_ofEntries]; rfl
    colors := hhold.colors ▸ keepsLast_colorTable _
    identities := hhold.identities ▸ keepsLast_colorTable _
    sets := hsets
    names := ?_ }
  rw [hnames, hhold.cards, Table.entries_ofEntries, Table.rows_ofEntries, Table.rows_ofEntries,
    List.zipIdx_map,
    List.map_map, List.map_map]
  rfl

/-- The operations of an export do not look at its promotional sets. -/
theorem operations_filter_isPromotional (sets : Export) :
    Export.operations (sets.filter fun entry => !entry.2.isPromotional) = sets.operations := by
  have htaken : Export.taken (sets.filter fun entry => !entry.2.isPromotional) = sets.taken := by
    rw [Export.taken, Export.taken, List.filter_map, List.filter_map, List.filter_filter]
    simp [Function.comp_def]
  rw [Export.operations, Export.operations, htaken]

/-- **Main theorem.** Every store takes every export, and its tables then hold the export and
    nothing else. Each entry of the export is counted as taken or as skipped, and the skipped ones
    are the promotional ones. Nothing of these is left anywhere: the export without them leaves the
    same store. -/
theorem take_writes_export (store : Store) (sets : Export) :
    ∃ tables, store.take sets = ({ store with tables := some tables }, .ok sets.count) ∧
      Tables.Render sets tables ∧
      sets.count.sets + sets.count.skipped = sets.length ∧
      sets.count.skipped = (sets.filter fun entry => entry.2.isPromotional).length ∧
      sets.count.printings = tables.cards.rows.length ∧
      (store.take (sets.filter fun entry => !entry.2.isPromotional)).1 = (store.take sets).1 := by
  have hrender := render_foldl_operations sets
  refine ⟨_, take_eq store sets, hrender, Export.sets_add_skipped sets, ?_, ?_, ?_⟩
  · rw [Export.count, List.filter_map, List.length_map]
    rfl
  · have hnumbers := congrArg List.length hrender.numbers
    rw [List.length_map, List.length_range'] at hnumbers
    rw [hnumbers, exported, Export.count, List.length_flatMap, List.length_flatMap]
    simp [Export.ExportedSet.toCards]
  · rw [take_eq, take_eq, operations_filter_isPromotional]

end CardCensus.Store
