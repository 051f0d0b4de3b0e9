import CardCensus.Store.Selection
import Mathlib.Data.List.Basic

/-!
# The rows that a plan joins

Joining never changes the card of a row, and it treats each row by itself.

Results:
* `foldl_joinWith_append`: rows are joined independently of each other.
* `mem_joined`: every joined row is a row of the table of cards.
* `mem_view_iff`: a tag's view lists the cards that have the tag's value.
* `foldl_joinWith_congr`, `passes_congr`: tables that have the same rows for a card join and test it
  alike.
* `filter_foldl_joinWith`: cards can be left out before or after joining.
-/

namespace CardCensus.Store

namespace Tables

variable {tables : Tables}

theorem mem_view_iff {tag : Tag} {id : String} :
    id ∈ tables.view tag ↔ ⟨id, tag.storedValue⟩ ∈ (tables.axisRows tag.axis).entries := by
  simp only [view, List.mem_map, List.mem_filter, beq_iff_eq]
  constructor
  · rintro ⟨row, ⟨hrow, hvalue⟩, rfl⟩
    rw [← hvalue]
    exact hrow
  · intro h
    exact ⟨_, ⟨h, rfl⟩, rfl⟩

/-! ## Joins -/

theorem mem_extend {row joined : JoinedRow} {relation : Relation}
    (h : joined ∈ tables.extend row relation) :
    joined.number = row.number ∧ joined.card = row.card := by
  cases relation with
  | cards =>
    obtain rfl := List.mem_singleton.mp h
    exact ⟨rfl, rfl⟩
  | setMembership | color | colorIdentity =>
    obtain ⟨other, -, rfl⟩ := List.mem_map.mp h
    exact ⟨rfl, rfl⟩

theorem foldl_joinWith_append (joins : List Relation) (first second : List JoinedRow) :
    joins.foldl tables.joinWith (first ++ second) =
      joins.foldl tables.joinWith first ++ joins.foldl tables.joinWith second := by
  induction joins generalizing first second with
  | nil => rfl
  | cons relation rest ih =>
    have happend : tables.joinWith (first ++ second) relation =
        tables.joinWith first relation ++ tables.joinWith second relation := List.flatMap_append
    rw [List.foldl_cons, List.foldl_cons, List.foldl_cons, happend, ih]

@[simp] theorem foldl_joinWith_nil (joins : List Relation) :
    joins.foldl tables.joinWith [] = [] := by
  induction joins with
  | nil => rfl
  | cons _ _ ih => exact ih

/-- Where each row is joined to one row, the joined rows stand in the order of the rows. -/
theorem foldl_joinWith_map {α : Type} {joins : List Relation} {items : List α}
    {base complete : α → JoinedRow}
    (h : ∀ item ∈ items, joins.foldl tables.joinWith [base item] = [complete item]) :
    joins.foldl tables.joinWith (items.map base) = items.map complete := by
  induction items with
  | nil => exact foldl_joinWith_nil joins
  | cons item rest ih =>
    rw [List.forall_mem_cons] at h
    rw [List.map_cons, ← List.singleton_append, foldl_joinWith_append, h.1, ih h.2]
    rfl

/-- A joined row comes from one of the rows that were there before. -/
theorem mem_foldl_joinWith {joins : List Relation} {rows : List JoinedRow} {joined : JoinedRow}
    (h : joined ∈ joins.foldl tables.joinWith rows) :
    ∃ row ∈ rows, joined.number = row.number ∧ joined.card = row.card := by
  induction joins generalizing rows with
  | nil => exact ⟨joined, h, rfl, rfl⟩
  | cons relation rest ih =>
    obtain ⟨between, hbetween, hnumber, hcard⟩ := ih h
    obtain ⟨row, hrow, hextend⟩ := List.mem_flatMap.mp hbetween
    obtain ⟨hnumber', hcard'⟩ := mem_extend hextend
    exact ⟨row, hrow, hnumber.trans hnumber', hcard.trans hcard'⟩

theorem mem_joined {plan : Plan} {row : JoinedRow} (h : row ∈ tables.joined plan) :
    (row.number, row.card) ∈ tables.cards.rows := by
  obtain ⟨base, hbase, hnumber, hcard⟩ := mem_foldl_joinWith h
  obtain ⟨⟨number, card⟩, hstored, rfl⟩ := List.mem_map.mp hbase
  rw [hnumber, hcard]
  exact hstored

theorem mem_cards_of_mem_retained {plan : Plan} {row : JoinedRow} (h : row ∈ tables.retained plan) :
    (row.number, row.card) ∈ tables.cards.rows :=
  mem_joined (mem_retained_iff.mp h).1

/-! ## Other tables -/

variable {other : Tables}

/-- Tables that have the same rows for some cards join the rows of these cards alike. -/
theorem foldl_joinWith_congr {P : CardRow → Prop}
    (hextend : ∀ row : JoinedRow, P row.card → ∀ relation,
      other.extend row relation = tables.extend row relation)
    {rows : List JoinedRow} (h : ∀ row ∈ rows, P row.card) (joins : List Relation) :
    joins.foldl other.joinWith rows = joins.foldl tables.joinWith rows := by
  induction joins generalizing rows with
  | nil => rfl
  | cons relation rest ih =>
    have hjoin : other.joinWith rows relation = tables.joinWith rows relation :=
      List.flatMap_congr fun row hrow => hextend row (h row hrow) relation
    rw [List.foldl_cons, List.foldl_cons, hjoin]
    apply ih
    intro joined hjoined
    obtain ⟨row, hrow, hjoinedrow⟩ := List.mem_flatMap.mp hjoined
    rw [(mem_extend hjoinedrow).2]
    exact h row hrow

/-- Cards can be left out before or after joining. -/
theorem filter_foldl_joinWith (test : CardRow → Bool) (joins : List Relation)
    (rows : List JoinedRow) :
    (joins.foldl tables.joinWith rows).filter (fun row => test row.card) =
      joins.foldl tables.joinWith (rows.filter fun row => test row.card) := by
  have hextend : ∀ (row : JoinedRow) (relation : Relation),
      (tables.extend row relation).filter (fun joined => test joined.card) =
        if test row.card then tables.extend row relation else [] := by
    intro row relation
    split
    · rename_i htest
      rw [List.filter_eq_self]
      intro joined hjoined
      rw [(mem_extend hjoined).2, htest]
    · rename_i htest
      rw [List.filter_eq_nil_iff]
      intro joined hjoined
      rw [(mem_extend hjoined).2]
      exact htest
  induction joins generalizing rows with
  | nil => rfl
  | cons relation rest ih =>
    have hjoin : (tables.joinWith rows relation).filter (fun row => test row.card) =
        tables.joinWith (rows.filter fun row => test row.card) relation := by
      induction rows with
      | nil => rfl
      | cons row rows ih =>
        have hcons : tables.joinWith (row :: rows) relation =
            tables.extend row relation ++ tables.joinWith rows relation := rfl
        rw [hcons, List.filter_append, hextend, ih, List.filter_cons]
        split <;> rfl
    rw [List.foldl_cons, List.foldl_cons, ih, hjoin]

end Tables

/-! ## Tests -/

section Tests

variable {tables other : Tables} {row : JoinedRow}

mutual

/-- Tables whose views list a card alike test it alike. -/
theorem passes_congr
    (h : ∀ tag, (other.view tag).contains row.card.id = (tables.view tag).contains row.card.id) :
    ∀ predicate, passes other row predicate = passes tables row predicate
  | .tagged tag _ => by rw [passes, passes, h tag]
  | .oneOf _ _ _ => by rw [passes, passes]
  | .contains _ _ _ => by rw [passes, passes]
  | .colorExact _ _ _ => by rw [passes, passes]
  | .anyOf predicates => by rw [passes, passes, passesAny_congr h predicates]

theorem passesAny_congr
    (h : ∀ tag, (other.view tag).contains row.card.id = (tables.view tag).contains row.card.id) :
    ∀ predicates, passesAny other row predicates = passesAny tables row predicates
  | [] => by rw [passesAny, passesAny]
  | predicate :: rest => by rw [passesAny, passesAny, passes_congr h predicate,
    passesAny_congr h rest]

end

end Tests

end CardCensus.Store
