import CardCensus.Proofs.Store.Joined
import CardCensus.Store.Write
import Mathlib.Data.List.Basic

/-!
# What a new printing leaves alone

A printing whose id is new is joined with its own rows only, and the rows of every other card are
joined and tested as they were before. So a plan retains what it retained, followed by rows of the
new printing.

Results:
* `axisRows_addPrinting`: a printing adds one row for each of its values on an axis.
* `passes_addPrinting`: no test of another card notices the new printing.
* `retained_addPrinting`: the retained rows of a plan go on with rows of the new printing.
-/

namespace CardCensus

/-- The values of a card on an axis. -/
def Card.valuesOn (card : Card) : Axis → List String
  | .supertype => card.supertypes
  | .type => card.types
  | .rarity => card.rarities

namespace Store

variable {tables : Tables} {setCode : String} {card : Card}

@[simp] theorem axisRows_addPrinting (tables : Tables) (setCode : String) (card : Card)
    (axis : Axis) :
    ((tables.addPrinting setCode card).axisRows axis).entries =
      (tables.axisRows axis).entries ++ Tables.axisRowsOf card.id (card.valuesOn axis) := by
  cases axis <;> simp [Tables.axisRows, Tables.addPrinting, Card.valuesOn]

/-- The number of a printing that is added next. -/
def Tables.nextNumber (tables : Tables) : Nat :=
  tables.cards.last + 1

theorem number_lt_nextNumber {number : Nat} {row : CardRow}
    (h : (number, row) ∈ tables.cards.rows) :
    number < tables.nextNumber :=
  Nat.lt_succ_of_le (Table.number_le_last h)

/-! ## Rows of other cards -/

/-- A row put under one key is not among those of another key. -/
theorem filter_key_put {α : Type} (key : α → String) (table : Table α) (row : α) {k : String}
    (h : k ≠ key row) :
    (table.put key row).entries.filter (fun other => key other == k) =
      table.entries.filter fun other => key other == k := by
  have hkept : ∀ other ∈ table.entries,
      (key other == k && key other != key row) = (key other == k) := by
    intro other _
    by_cases hk : key other = k
    · simp [hk, h]
    · simp [hk]
  have hnew : ¬ key row = k := fun he => h he.symm
  rw [Table.entries_put, List.filter_append, List.filter_filter, List.filter_congr hkept]
  simp [hnew]

theorem extend_addPrinting {row : JoinedRow} (h : row.card.id ≠ card.id) (relation : Relation) :
    (tables.addPrinting setCode card).extend row relation = tables.extend row relation := by
  have hcolors := fun (table : Table ColorRow) (mask : ColorMask) =>
    filter_key_put ColorRow.id table (.ofMask card.id mask) h
  cases relation with
  | cards => rfl
  | setMembership =>
    have hother : ¬ card.id = row.card.id := fun he => h he.symm
    simp [Tables.extend, Tables.addPrinting, List.filter_append, hother]
  | color => simp only [Tables.extend, Tables.addPrinting, hcolors]
  | colorIdentity => simp only [Tables.extend, Tables.addPrinting, hcolors]

theorem foldl_joinWith_addPrinting {rows : List JoinedRow} (h : ∀ row ∈ rows, row.card.id ≠ card.id)
    (joins : List Relation) :
    joins.foldl (tables.addPrinting setCode card).joinWith rows =
      joins.foldl tables.joinWith rows :=
  Tables.foldl_joinWith_congr (P := fun row => row.id ≠ card.id)
    (fun _ hrow => extend_addPrinting hrow) h joins

theorem contains_view_addPrinting {id : String} (h : id ≠ card.id) (tag : Tag) :
    ((tables.addPrinting setCode card).view tag).contains id = (tables.view tag).contains id := by
  have hnew : ∀ values : List String, ∀ value, ⟨id, value⟩ ∉ Tables.axisRowsOf card.id values := by
    intro values value hmem
    obtain ⟨other, -, heq⟩ := List.mem_map.mp hmem
    exact h (congrArg AxisRow.id heq).symm
  rw [Bool.eq_iff_iff, List.contains_iff_mem, List.contains_iff_mem, Tables.mem_view_iff,
    Tables.mem_view_iff, axisRows_addPrinting, List.mem_append]
  exact or_iff_left (hnew _ _)

/-- No test of another card notices the new printing. -/
theorem passes_addPrinting {row : JoinedRow} (h : row.card.id ≠ card.id) (predicate : Predicate) :
    passes (tables.addPrinting setCode card) row predicate = passes tables row predicate :=
  passes_congr (contains_view_addPrinting h) predicate

/-! ## Plans -/

theorem joined_addPrinting (hfresh : ∀ row ∈ tables.cards.entries, row.id ≠ card.id) (plan : Plan) :
    (tables.addPrinting setCode card).joined plan = tables.joined plan ++
      plan.joins.foldl (tables.addPrinting setCode card).joinWith
        [{ number := tables.nextNumber, card := .ofCard card }] := by
  have hrows : (tables.addPrinting setCode card).baseRows =
      tables.baseRows ++ [{ number := tables.nextNumber, card := .ofCard card }] := List.map_append
  have hold : ∀ row ∈ tables.baseRows, row.card.id ≠ card.id := by
    intro row hrow
    obtain ⟨⟨number, stored⟩, hstored, rfl⟩ := List.mem_map.mp hrow
    exact hfresh stored (Table.mem_entries_iff.mpr ⟨number, hstored⟩)
  rw [Tables.joined, hrows, Tables.foldl_joinWith_append, foldl_joinWith_addPrinting hold]
  rfl

/-- After a printing with a new id, a plan retains what it retained before, and then only rows of
    the new printing. -/
theorem retained_addPrinting (setCode : String)
    (hfresh : ∀ row ∈ tables.cards.entries, row.id ≠ card.id) (plan : Plan) :
    ∃ news, (tables.addPrinting setCode card).retained plan = tables.retained plan ++ news ∧
      ∀ row ∈ news, row.number = tables.nextNumber ∧ row.card = .ofCard card := by
  have hold : (tables.joined plan).filter (fun row => row.card.multiverseId != 0 &&
      plan.predicates.all (passes (tables.addPrinting setCode card) row)) =
        tables.retained plan := by
    apply List.filter_congr
    intro row hrow
    have hid : row.card.id ≠ card.id :=
      hfresh row.card (Table.mem_entries_iff.mpr ⟨_, Tables.mem_joined hrow⟩)
    rw [funext (passes_addPrinting hid)]
  rw [Tables.retained, joined_addPrinting hfresh, List.filter_append, hold]
  refine ⟨_, rfl, ?_⟩
  intro row hrow
  obtain ⟨base, hbase, hnumber, hcard⟩ := Tables.mem_foldl_joinWith (List.mem_filter.mp hrow).1
  obtain rfl := List.mem_singleton.mp hbase
  exact ⟨hnumber, hcard⟩

end Store

end CardCensus
