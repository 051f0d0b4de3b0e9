import CardCensus.Proofs.Store.Addition
import CardCensus.Proofs.Store.History
import Mathlib.Data.List.Induction
import Mathlib.Data.List.Nodup

/-!
# The printings behind the tables

The account of a store lists the printings that it holds, each with the code that it was added
under. All that the tables say of cards can be read off this list: the rows of each printing, one
printing after the other. While ids are distinct, each printing has exactly one row to be joined
with in every relation.

Results:
* `printings_tell`: the tables are those of the printings, whatever has happened to the store.
* `Tables.Hold.joined_eq`: with distinct ids, a plan joins each printing to its own rows, once.
* `Tables.Hold.mem_view_iff`: with distinct ids, a printing is in a tag's view exactly when it has
  the tag's value.
-/

namespace CardCensus.Store

/-- A card under the code of its set. -/
structure Printing where
  setCode : String
  card : Card
  deriving DecidableEq, Inhabited

/-- The account of the printings that a store holds, in the order in which they came. -/
def printings : Account (List Printing) where
  start := []
  next held
    | .clear => []
    | .addPrinting setCode card => held ++ [⟨setCode, card⟩]
    | _ => held

namespace Printing

/-- The row of a printing in the table of cards. -/
def row (printing : Printing) : CardRow :=
  .ofCard printing.card

/-- The row of a printing in the table that pairs cards with sets. -/
def membership (printing : Printing) : MembershipRow :=
  ⟨printing.setCode, printing.card.id⟩

/-- The row of a printing in the table of colours. -/
def colorRow (printing : Printing) : ColorRow :=
  .ofMask printing.card.id printing.card.colors

/-- The row of a printing in the table of colour identities. -/
def identityRow (printing : Printing) : ColorRow :=
  .ofMask printing.card.id printing.card.colorIdentity

/-- The rows of a printing on an axis. -/
def axisRows (axis : Axis) (printing : Printing) : List AxisRow :=
  Tables.axisRowsOf printing.card.id (printing.card.valuesOn axis)

end Printing

/-- The table of rows of colours that are put in one after the other. -/
def colorTable (rows : List ColorRow) : Table ColorRow :=
  rows.foldl (Table.put ColorRow.id) .empty

/-- What the tables say of cards is what the printings give. -/
structure Tables.Hold (held : List Printing) (tables : Tables) : Prop where
  cards : tables.cards = .ofEntries (held.map Printing.row)
  memberships : tables.memberships = .ofEntries (held.map Printing.membership)
  colors : tables.colors = colorTable (held.map Printing.colorRow)
  identities : tables.identities = colorTable (held.map Printing.identityRow)
  axisRows : ∀ axis, tables.axisRows axis = .ofEntries (held.flatMap (Printing.axisRows axis))

/-! ## Every operation -/

theorem ofEntries_append {α : Type} (rows more : List α) :
    Table.ofEntries (rows ++ more) = (Table.ofEntries rows).addAll more :=
  List.foldl_append

theorem colorTable_append (rows : List ColorRow) (row : ColorRow) :
    colorTable (rows ++ [row]) = (colorTable rows).put ColorRow.id row :=
  List.foldl_append

theorem Tables.Hold.addPrinting {held : List Printing} {tables : Tables}
    (h : Tables.Hold held tables)
    (setCode : String) (card : Card) :
    Tables.Hold (held ++ [⟨setCode, card⟩]) (tables.addPrinting setCode card) where
  cards := by
    rw [List.map_append, ofEntries_append, ← h.cards]
    rfl
  memberships := by
    rw [List.map_append, ofEntries_append, ← h.memberships]
    rfl
  colors := by
    rw [List.map_append, List.map_singleton, colorTable_append, ← h.colors]
    rfl
  identities := by
    rw [List.map_append, List.map_singleton, colorTable_append, ← h.identities]
    rfl
  axisRows axis := by
    rw [List.flatMap_append, ofEntries_append, ← h.axisRows axis, List.flatMap_singleton]
    cases axis <;> rfl

theorem hold_empty : Tables.Hold [] {} where
  cards := rfl
  memberships := rfl
  colors := rfl
  identities := rfl
  axisRows axis := by cases axis <;> rfl

/-- **Step.** The tables stay those of the printings with every operation. -/
theorem printings_tell : printings.Tells Tables.Hold where
  empty := hold_empty
  effect h operation := by
    cases operation with
    | clear =>
      rw [Operation.effect, Tables.clear_eq]
      exact hold_empty
    | putSet set => exact ⟨h.cards, h.memberships, h.colors, h.identities, h.axisRows⟩
    | addPrinting setCode card => exact h.addPrinting setCode card
    | rebuildIndex => exact ⟨h.cards, h.memberships, h.colors, h.identities, h.axisRows⟩
    | refuse cause => exact h

/-! ## Row numbers -/

/-- The printings with the numbers of their rows, which count from one. -/
def numbered (held : List Printing) : List (Nat × Printing) :=
  (held.zipIdx 1).map fun (printing, number) => (number, printing)

variable {held : List Printing} {tables : Tables}

theorem mem_of_mem_numbered {entry : Nat × Printing} (h : entry ∈ numbered held) :
    entry.2 ∈ held := by
  obtain ⟨⟨printing, number⟩, hmem, rfl⟩ := List.mem_map.mp h
  exact List.fst_mem_of_mem_zipIdx hmem

theorem exists_mem_numbered {printing : Printing} (h : printing ∈ held) :
    ∃ number, (number, printing) ∈ numbered held := by
  rw [← List.zipIdx_map_fst 1 held] at h
  obtain ⟨⟨other, number⟩, hmem, rfl⟩ := List.mem_map.mp h
  exact ⟨number, List.mem_map_of_mem hmem⟩

theorem Tables.Hold.cardRows (h : Tables.Hold held tables) :
    tables.cards.rows = (numbered held).map fun (number, printing) => (number, printing.row) := by
  rw [h.cards, Table.rows_ofEntries, numbered, List.zipIdx_map, List.map_map, List.map_map]
  rfl

/-! ## Distinct ids -/

/-- With distinct ids, an id picks out one printing. -/
theorem filter_id_eq (hids : (held.map (·.card.id)).Nodup) {printing : Printing}
    (hp : printing ∈ held) :
    held.filter (fun other => other.card.id == printing.card.id) = [printing] := by
  induction held with
  | nil => cases hp
  | cons first rest ih =>
    rw [List.map_cons, List.nodup_cons] at hids
    rcases List.mem_cons.mp hp with rfl | hp
    · have hnone : rest.filter (fun other => other.card.id == printing.card.id) = [] := by
        rw [List.filter_eq_nil_iff]
        intro other hother hid
        exact hids.1 (beq_iff_eq.mp hid ▸ List.mem_map_of_mem hother)
      rw [List.filter_cons_of_pos (by simp), hnone]
    · have hfirst : ¬ (first.card.id == printing.card.id) = true := by
        intro hid
        exact hids.1 (beq_iff_eq.mp hid ▸ List.mem_map_of_mem hp)
      rw [List.filter_cons, if_neg hfirst, ih hids.2 hp]

theorem eq_of_id_eq (hids : (held.map (·.card.id)).Nodup) {first second : Printing}
    (h : first ∈ held)
    (h' : second ∈ held) (hid : first.card.id = second.card.id) : first = second :=
  List.inj_on_of_nodup_map hids h h' hid

/-- Rows of distinct cards never take each other's place. -/
theorem entries_colorTable {rows : List ColorRow} (h : (rows.map ColorRow.id).Nodup) :
    (colorTable rows).entries = rows := by
  induction rows using List.reverseRecOn with
  | nil => rfl
  | append_singleton rows row ih =>
    rw [List.map_append, List.map_singleton, List.nodup_append] at h
    obtain ⟨hrows, -, hnew⟩ := h
    rw [colorTable_append, Table.entries_put, ih hrows, List.filter_eq_self.mpr]
    intro other hother
    exact bne_iff_ne.mpr (hnew _ (List.mem_map_of_mem hother) _ (List.mem_singleton.mpr rfl))

theorem entries_colorTable_map {colors : Printing → ColorRow}
    (hcolors : ∀ printing, (colors printing).id = printing.card.id)
    (hids : (held.map (·.card.id)).Nodup) :
    (colorTable (held.map colors)).entries = held.map colors := by
  apply entries_colorTable
  rw [List.map_map]
  rw [show ColorRow.id ∘ colors = (·.card.id) from funext hcolors]
  exact hids

/-- Of the rows that printings give, those of one printing. -/
theorem filter_map_id_eq {α : Type} (rowOf : Printing → α) (key : α → String)
    (hkey : ∀ printing, key (rowOf printing) = printing.card.id)
    (hids : (held.map (·.card.id)).Nodup)
    {printing : Printing} (hp : printing ∈ held) :
    (held.map rowOf).filter (fun row => key row == printing.card.id) = [rowOf printing] := by
  rw [List.filter_map]
  have hfilter : held.filter ((fun row => key row == printing.card.id) ∘ rowOf) = [printing] := by
    rw [← filter_id_eq hids hp]
    apply List.filter_congr
    intro other _
    rw [Function.comp_apply, hkey]
  rw [hfilter, List.map_singleton]

/-! ## Joins -/

/-- The row with what a printing gives it in a relation. -/
def JoinedRow.supply (printing : Printing) (row : JoinedRow) : Relation → JoinedRow
  | .cards => row
  | .setMembership => { row with setCode := some printing.setCode }
  | .color => { row with color := some printing.colorRow }
  | .colorIdentity => { row with identity := some printing.identityRow }

/-- The row of a printing, joined with its own rows. -/
def Printing.joinedRow (printing : Printing) (joins : List Relation) (number : Nat) : JoinedRow :=
  joins.foldl (JoinedRow.supply printing) { number, card := printing.row }

/-- A printing has one row to be joined with in every relation. -/
theorem Tables.Hold.extend_eq (h : Tables.Hold held tables) (hids : (held.map (·.card.id)).Nodup)
    {printing : Printing} (hp : printing ∈ held) {row : JoinedRow} (hrow : row.card = printing.row)
    (relation : Relation) : tables.extend row relation = [row.supply printing relation] := by
  have hid : row.card.id = printing.card.id := congrArg CardRow.id hrow
  cases relation with
  | cards => rfl
  | setMembership =>
    have hrows := filter_map_id_eq Printing.membership MembershipRow.id (fun _ => rfl) hids hp
    rw [Tables.extend, h.memberships, Table.entries_ofEntries, hid, hrows]
    rfl
  | color =>
    have hrows := filter_map_id_eq Printing.colorRow ColorRow.id (fun _ => rfl) hids hp
    rw [Tables.extend, h.colors, entries_colorTable_map (fun _ => rfl) hids, hid, hrows]
    rfl
  | colorIdentity =>
    have hrows := filter_map_id_eq Printing.identityRow ColorRow.id (fun _ => rfl) hids hp
    rw [Tables.extend, h.identities, entries_colorTable_map (fun _ => rfl) hids, hid, hrows]
    rfl

@[simp] theorem card_supply (printing : Printing) (row : JoinedRow) (relation : Relation) :
    (row.supply printing relation).card = row.card := by
  cases relation <;> rfl

@[simp] theorem number_supply (printing : Printing) (row : JoinedRow) (relation : Relation) :
    (row.supply printing relation).number = row.number := by
  cases relation <;> rfl

theorem supply_comm (printing : Printing) (row : JoinedRow) (first second : Relation) :
    (row.supply printing first).supply printing second =
      (row.supply printing second).supply printing first := by
  cases first <;> cases second <;> rfl

theorem supply_supply (printing : Printing) (row : JoinedRow) (relation : Relation) :
    (row.supply printing relation).supply printing relation = row.supply printing relation := by
  cases relation <;> rfl

theorem Tables.Hold.foldl_joinWith_eq (h : Tables.Hold held tables)
    (hids : (held.map (·.card.id)).Nodup)
    {printing : Printing} (hp : printing ∈ held) (joins : List Relation) {row : JoinedRow}
    (hrow : row.card = printing.row) :
    joins.foldl tables.joinWith [row] = [joins.foldl (JoinedRow.supply printing) row] := by
  induction joins generalizing row with
  | nil => rfl
  | cons relation rest ih =>
    have hjoin : tables.joinWith [row] relation = [row.supply printing relation] := by
      rw [Tables.joinWith, List.flatMap_singleton, h.extend_eq hids hp hrow]
    rw [List.foldl_cons, hjoin, List.foldl_cons]
    exact ih ((card_supply printing row relation).trans hrow)

/-- With distinct ids, a plan joins each printing to its own rows, once. -/
theorem Tables.Hold.joined_eq (h : Tables.Hold held tables) (hids : (held.map (·.card.id)).Nodup)
    (plan : Plan) : tables.joined plan =
      (numbered held).map fun (number, printing) => printing.joinedRow plan.joins number := by
  rw [Tables.joined, Tables.baseRows, h.cardRows, List.map_map]
  apply Tables.foldl_joinWith_map
  intro entry hentry
  exact h.foldl_joinWith_eq hids (mem_of_mem_numbered hentry) plan.joins rfl

/-! ## What a joined row has -/

variable {printing : Printing} {joins : List Relation} {number : Nat}

theorem card_foldl_supply (joins : List Relation) (row : JoinedRow) :
    (joins.foldl (JoinedRow.supply printing) row).card = row.card := by
  induction joins generalizing row with
  | nil => rfl
  | cons relation rest ih => exact (ih _).trans (card_supply printing row relation)

theorem number_foldl_supply (joins : List Relation) (row : JoinedRow) :
    (joins.foldl (JoinedRow.supply printing) row).number = row.number := by
  induction joins generalizing row with
  | nil => rfl
  | cons relation rest ih => exact (ih _).trans (number_supply printing row relation)

@[simp] theorem card_joinedRow (printing : Printing) (joins : List Relation) (number : Nat) :
    (printing.joinedRow joins number).card = printing.row :=
  card_foldl_supply joins _

@[simp] theorem number_joinedRow (printing : Printing) (joins : List Relation) (number : Nat) :
    (printing.joinedRow joins number).number = number :=
  number_foldl_supply joins _

/-- What a relation has supplied stays. -/
theorem supply_foldl_supply {relation : Relation} {row : JoinedRow}
    (h : row.supply printing relation = row) (joins : List Relation) :
    (joins.foldl (JoinedRow.supply printing) row).supply printing relation =
      joins.foldl (JoinedRow.supply printing) row := by
  induction joins generalizing row with
  | nil => exact h
  | cons other rest ih =>
    apply ih
    rw [supply_comm, h]

theorem supply_joinedRow {relation : Relation} (h : relation ∈ joins) :
    (printing.joinedRow joins number).supply printing relation =
      printing.joinedRow joins number := by
  unfold Printing.joinedRow
  generalize ({ number, card := printing.row } : JoinedRow) = row
  induction joins generalizing row with
  | nil => cases h
  | cons other rest ih =>
    rcases List.mem_cons.mp h with rfl | h
    · exact supply_foldl_supply (supply_supply printing row relation) rest
    · exact ih h _

theorem setCode_joinedRow (h : .setMembership ∈ joins) :
    (printing.joinedRow joins number).setCode = some printing.setCode :=
  (congrArg JoinedRow.setCode (supply_joinedRow h)).symm

/-- The mask that a relation gives a printing. -/
def Printing.mask? (printing : Printing) : Relation → Option ColorMask
  | .color => some printing.card.colors
  | .colorIdentity => some printing.card.colorIdentity
  | .cards | .setMembership => none

theorem flags?_joinedRow {relation : Relation} {mask : ColorMask}
    (hmask : printing.mask? relation = some mask)
    (h : relation ∈ joins) : (printing.joinedRow joins number).flags? relation =
      some (ColorRow.ofMask printing.card.id mask).flags := by
  have hsupply : ((printing.joinedRow joins number).supply printing relation).flags? relation =
      (printing.joinedRow joins number).flags? relation := by rw [supply_joinedRow h]
  cases relation with
  | color | colorIdentity =>
    cases hmask
    exact hsupply.symm
  | cards | setMembership => cases hmask

/-- With distinct ids, a printing is in a tag's view exactly when it has the tag's value. -/
theorem Tables.Hold.mem_view_iff (h : Tables.Hold held tables) (hids : (held.map (·.card.id)).Nodup)
    (hp : printing ∈ held) {tag : Tag} :
    printing.card.id ∈ tables.view tag ↔ tag.storedValue ∈ printing.card.valuesOn tag.axis := by
  rw [Tables.mem_view_iff, h.axisRows, Table.entries_ofEntries, List.mem_flatMap]
  constructor
  · rintro ⟨other, hother, hrow⟩
    obtain ⟨value, hvalue, heq⟩ := List.mem_map.mp hrow
    obtain ⟨hid, rfl⟩ := AxisRow.mk.inj heq
    rw [← eq_of_id_eq hids hother hp hid]
    exact hvalue
  · intro hvalue
    exact ⟨printing, hp, List.mem_map.mpr ⟨_, hvalue, rfl⟩⟩

end CardCensus.Store
