import CardCensus.Proofs.Store.Contents
import Mathlib.Data.List.Dedup

/-!
# What the tables are keyed by

Joins take the id of a card for the key of a printing, but nothing in the tables makes it one. The
tables of cards and of their sets list a repeated id as often as it comes; the tables of colours
keep the last row of each id, and the table of sets the last row of each code. So a table of colours
has a row for each id, not for each printing, and the tables are keyed by printing exactly when the
export repeats no id.

Results:
* `KeepsLast.length_eq`: a table that keeps the last row of each key has as many rows as there are
  keys.
* `Tables.Hold.keyed_iff`: the tables are keyed by printing exactly when ids are distinct.
* `take_keyed_iff`: how many rows an export leaves, and when they are keyed by printing.
-/

namespace CardCensus.Store

/-! ## Counting keys -/

section Keyed

variable {α : Type} {key : α → String} {rows : List α} {table : Table α}

/-- A table that keeps the last row of each key has as many rows as there are keys. -/
theorem KeepsLast.length_eq (h : KeepsLast key rows table) :
    table.entries.length = (rows.map key).dedup.length := by
  have hperm : (table.entries.map key).Perm (rows.map key).dedup := by
    rw [List.perm_ext_iff_of_nodup h.nodup (List.nodup_dedup _)]
    intro k
    rw [List.mem_dedup]
    exact h.keys k
  rw [← hperm.length_eq, List.length_map]

theorem length_dedup_eq_iff {keys : List String} : keys.dedup.length = keys.length ↔
    keys.Nodup := by
  rw [(List.dedup_sublist keys).length_eq, List.dedup_eq_self]

/-- No row is lost exactly when no key is repeated. -/
theorem KeepsLast.length_eq_iff (h : KeepsLast key rows table) :
    table.entries.length = rows.length ↔ (rows.map key).Nodup := by
  rw [h.length_eq, ← length_dedup_eq_iff, List.length_map]

end Keyed

/-! ## Tables keyed by printing -/

/-- The tables are keyed by printing: each relation has one row for each printing, found by its id,
    that says of the printing what the printing says, and a join with any relations keeps each
    printing once, with its own rows. -/
structure Tables.KeyedBy (held : List Printing) (tables : Tables) : Prop where
  cards : tables.cards.entries.length = held.length
  memberships : tables.memberships.entries.length = held.length
  colors : tables.colors.entries.length = held.length
  identities : tables.identities.entries.length = held.length
  ownMembership : ∀ printing ∈ held,
    tables.memberships.entries.filter (·.id == printing.card.id) = [printing.membership]
  ownColors : ∀ printing ∈ held, tables.colors.entries.filter (·.id == printing.card.id) =
    [printing.colorRow]
  ownIdentity : ∀ printing ∈ held, tables.identities.entries.filter (·.id == printing.card.id) =
    [printing.identityRow]
  joined : ∀ plan, tables.joined plan =
    (numbered held).map fun (number, printing) => printing.joinedRow plan.joins number

variable {held : List Printing} {tables : Tables}

/-- The ids of the rows of colours, of which each table of colours keeps one each. -/
theorem Tables.Hold.length_colors (h : Tables.Hold held tables) :
    tables.colors.entries.length = (held.map (·.card.id)).dedup.length := by
  rw [h.colors, (keepsLast_colorTable _).length_eq, List.map_map]
  rfl

theorem Tables.Hold.length_identities (h : Tables.Hold held tables) :
    tables.identities.entries.length = (held.map (·.card.id)).dedup.length := by
  rw [h.identities, (keepsLast_colorTable _).length_eq, List.map_map]
  rfl

theorem Tables.Hold.length_cards (h : Tables.Hold held tables) :
    tables.cards.entries.length = held.length := by
  rw [h.cards, Table.entries_ofEntries, List.length_map]

theorem Tables.Hold.length_memberships (h : Tables.Hold held tables) :
    tables.memberships.entries.length = held.length := by
  rw [h.memberships, Table.entries_ofEntries, List.length_map]

/-- With distinct ids, each printing finds its own rows by its id. -/
theorem Tables.Hold.keyed (h : Tables.Hold held tables) (hids : (held.map (·.card.id)).Nodup) :
    tables.KeyedBy held where
  cards := h.length_cards
  memberships := h.length_memberships
  colors := by rw [h.length_colors, hids.dedup, List.length_map]
  identities := by rw [h.length_identities, hids.dedup, List.length_map]
  ownMembership printing hp := by
    rw [h.memberships, Table.entries_ofEntries]
    exact filter_map_id_eq Printing.membership MembershipRow.id (fun _ => rfl) hids hp
  ownColors printing hp := by
    rw [h.colors, entries_colorTable_map (fun _ => rfl) hids]
    exact filter_map_id_eq Printing.colorRow ColorRow.id (fun _ => rfl) hids hp
  ownIdentity printing hp := by
    rw [h.identities, entries_colorTable_map (fun _ => rfl) hids]
    exact filter_map_id_eq Printing.identityRow ColorRow.id (fun _ => rfl) hids hp
  joined := h.joined_eq hids

/-- A repeated id already shows in the number of rows of colours. -/
theorem Tables.Hold.keyed_iff (h : Tables.Hold held tables) :
    tables.KeyedBy held ↔ (held.map (·.card.id)).Nodup := by
  constructor
  · intro hkeyed
    have hlength := hkeyed.colors
    rw [h.length_colors] at hlength
    rw [← length_dedup_eq_iff, hlength, List.length_map]
  · exact h.keyed

/-! ## After an export -/

theorem length_exported (sets : Export) : (exported sets).length = sets.count.printings := by
  rw [exported, Export.count, List.length_flatMap, List.length_flatMap]
  simp [Export.ExportedSet.toCards]

/-- **Main theorem.** Every store takes every export. The tables of cards and of their sets then
    have a row for each printing that is counted, the tables of colours one for each id, and the
    table of sets one for each code. So each set that is counted has a row exactly when the export
    repeats no code, and the tables are keyed by printing exactly when it repeats no id. -/
theorem take_keyed_iff (store : Store) (sets : Export) :
    ∃ tables, store.take sets = ({ store with tables := some tables }, .ok sets.count) ∧
      (exported sets).length = sets.count.printings ∧
      tables.cards.entries.length = sets.count.printings ∧
      tables.memberships.entries.length = sets.count.printings ∧
      tables.colors.entries.length = ((exported sets).map (·.card.id)).dedup.length ∧
      tables.identities.entries.length = ((exported sets).map (·.card.id)).dedup.length ∧
      tables.sets.entries.length = (sets.taken.map (·.code)).dedup.length ∧
      (tables.sets.entries.length = sets.count.sets ↔ (sets.taken.map (·.code)).Nodup) ∧
      (tables.KeyedBy (exported sets) ↔ ((exported sets).map (·.card.id)).Nodup) := by
  have hhold := hold_exported sets
  have hsets := (render_foldl_operations sets).sets
  have hcodes : (sets.taken.map Export.ExportedSet.toCardSet).map CardSet.code =
      sets.taken.map (·.code) := by
    rw [List.map_map]
    rfl
  refine ⟨_, take_eq store sets, length_exported sets, ?_, ?_, hhold.length_colors,
    hhold.length_identities, ?_, ?_,
    hhold.keyed_iff⟩
  · rw [hhold.length_cards, length_exported]
  · rw [hhold.length_memberships, length_exported]
  · rw [hsets.length_eq, hcodes]
  · rw [← hcodes, ← hsets.length_eq_iff, List.length_map]
    rfl

/-- Two printings with one id, in different sets, and a third set with the code of the first. -/
def repeatingExport : Export :=
  [("LEA",
    { name := "Alpha", code := "LEA", cards := [{ id := "1", name := "Elf", colors := ["Green"] }]
      }),
    ("ICE",
      { name := "Ice Age", code := "ICE",
        cards := [{ id := "1", name := "Imp", colors := ["Black"] }] }),
    ("SUM", { name := "Summer", code := "LEA" })]

/-- An export may repeat an id and a code. Then there are fewer rows of sets and of colours than are
    counted, both cards have the colours of the last printing, and a join with the sets puts each
    card into both. -/
theorem take_repeating : ∃ tables, Store.take {} repeatingExport =
    ({ tables := some tables }, .ok ⟨3, 0, 2⟩) ∧
    tables.sets.entries.length = 2 ∧
    tables.colors.entries.map (fun row => (row.id, row.green, row.black)) = [("1", 0, 1)] ∧
    (tables.joined { joins := [.setMembership] }).map (fun row => (row.card.name, row.setCode)) =
      [("Elf", some "LEA"), ("Elf", some "ICE"), ("Imp", some "LEA"), ("Imp", some "ICE")] ∧
    ¬ tables.KeyedBy (exported repeatingExport) := by
  have htake := take_eq {} repeatingExport
  generalize htables : repeatingExport.operations.foldl Operation.effect {} = tables at htake
  refine ⟨tables, htake, ?_, ?_, ?_, ?_⟩
  · rw [← htables]
    decide
  · rw [← htables]
    decide
  · rw [← htables]
    decide
  · intro hkeyed
    have hlength := hkeyed.colors
    rw [← htables] at hlength
    exact absurd hlength (by decide)

end CardCensus.Store
