/-!
# Tables of numbered rows

A table lists its rows under their row numbers, which ascend. A new row takes the number one past
the last row, so the numbers start from one again once a table is empty.

Results:
* `entries_add`, `entries_put`: the rows of a table, numbers apart, after one is added or put.
* `number_le_last`: the number of the last row bounds all numbers.
* `entry_unique`: a number belongs to one row.
* `rows_ofEntries`: rows added to an empty table are numbered by their places.
-/

namespace CardCensus.Store

/-- Rows under their row numbers, which ascend. -/
structure Table (α : Type) where
  rows : List (Nat × α)
  ascending : rows.Pairwise (fun a b => a.1 < b.1)
  deriving DecidableEq

namespace Table

variable {α : Type}

/-- The table without rows. -/
def empty : Table α :=
  ⟨[], .nil⟩

instance : Inhabited (Table α) := ⟨empty⟩

/-- The rows without their numbers. -/
def entries (table : Table α) : List α :=
  table.rows.map (·.2)

/-- The number of the last row, zero if there is none. -/
def last (table : Table α) : Nat :=
  (table.rows.getLast?.map (·.1)).getD 0

theorem number_le_last {table : Table α} {row : Nat × α} (h : row ∈ table.rows) :
    row.1 ≤ table.last := by
  obtain ⟨rows, hascending⟩ := table
  rcases List.eq_nil_or_concat rows with rfl | ⟨front, final, hrows⟩
  · cases h
  · rw [List.concat_eq_append] at hrows
    subst hrows
    have hlast : last ⟨front ++ [final], hascending⟩ = final.1 := by simp [last]
    rw [List.pairwise_append] at hascending
    rw [hlast]
    rcases List.mem_append.mp h with h | h
    · exact Nat.le_of_lt (hascending.2.2 row h final (List.mem_singleton.mpr rfl))
    · exact Nat.le_of_eq (congrArg Prod.fst (List.mem_singleton.mp h))

theorem entry_unique {table : Table α} {number : Nat} {a b : α} (ha : (number, a) ∈ table.rows)
    (hb : (number, b) ∈ table.rows) : a = b := by
  have hpairwise := table.ascending
  generalize table.rows = rows at ha hb hpairwise
  induction hpairwise with
  | nil => cases ha
  | cons hhead _ ih =>
    rcases List.mem_cons.mp ha with rfl | ha <;> rcases List.mem_cons.mp hb with hb | hb
    · exact (Prod.mk.inj hb).2.symm
    · exact absurd (hhead _ hb) (Nat.lt_irrefl _)
    · exact absurd (hb ▸ hhead _ ha) (Nat.lt_irrefl _)
    · exact ih ha hb

/-- The table with the rows that pass a test, under their numbers. -/
def keep (table : Table α) (test : α → Bool) : Table α where
  rows := table.rows.filter fun row => test row.2
  ascending := table.ascending.sublist List.filter_sublist

theorem ascending_append (table : Table α) {rows : List (Nat × α)} (h : rows.Sublist table.rows)
    (row : α) : (rows ++ [(table.last + 1, row)]).Pairwise (fun a b => a.1 < b.1) := by
  rw [List.pairwise_append]
  refine ⟨table.ascending.sublist h, List.pairwise_singleton _ _, fun a ha b hb => ?_⟩
  rw [List.mem_singleton.mp hb]
  exact Nat.lt_succ_of_le (number_le_last (h.subset ha))

/-- The table with a new row. -/
def add (table : Table α) (row : α) : Table α where
  rows := table.rows ++ [(table.last + 1, row)]
  ascending := table.ascending_append (List.Sublist.refl _) row

/-- The table with several new rows. -/
def addAll (table : Table α) (rows : List α) : Table α :=
  rows.foldl add table

/-- The table of new rows. -/
def ofEntries (rows : List α) : Table α :=
  addAll empty rows

/-- The table with a row in the place of those with its key. It takes a new number, chosen while the
    others are still there. -/
def put (key : α → String) (table : Table α) (row : α) : Table α where
  rows := (table.keep fun other => key other != key row).rows ++ [(table.last + 1, row)]
  ascending := table.ascending_append List.filter_sublist row

/-- The table of numbered rows, if their numbers ascend. -/
def ofRows? (rows : List (Nat × α)) : Option (Table α) :=
  if h : rows.Pairwise (fun a b => a.1 < b.1) then some ⟨rows, h⟩ else none

@[simp] theorem entries_empty : (empty : Table α).entries = [] := rfl

@[simp] theorem entries_add (table : Table α) (row : α) :
    (table.add row).entries = table.entries ++ [row] := by
  simp [entries, add]

@[simp] theorem entries_addAll (table : Table α) (rows : List α) :
    (table.addAll rows).entries = table.entries ++ rows := by
  induction rows generalizing table with
  | nil => simp [addAll]
  | cons row rest ih =>
    change ((table.add row).addAll rest).entries = _
    rw [ih, entries_add, List.append_assoc, List.singleton_append]

@[simp] theorem entries_ofEntries (rows : List α) : (ofEntries rows).entries = rows := by
  rw [ofEntries, entries_addAll, entries_empty, List.nil_append]

@[simp] theorem entries_keep (table : Table α) (test : α → Bool) :
    (table.keep test).entries = table.entries.filter test := by
  simp only [entries, keep, List.filter_map]
  rfl

@[simp] theorem entries_put (key : α → String) (table : Table α) (row : α) :
    (table.put key row).entries = table.entries.filter (fun other => key other != key row) ++
      [row] := by
  rw [← entries_keep]
  simp [entries, put]

theorem last_add (table : Table α) (row : α) : (table.add row).last = table.last + 1 := by
  simp [last, add]

theorem rows_addAll (table : Table α) (rows : List α) :
    (table.addAll rows).rows =
      table.rows ++ (rows.zipIdx (table.last + 1)).map fun (row, number) => (number, row) := by
  induction rows generalizing table with
  | nil => simp [addAll]
  | cons row rest ih =>
    change ((table.add row).addAll rest).rows = _
    rw [ih, last_add]
    simp [add, List.zipIdx_cons]

theorem rows_ofEntries (rows : List α) :
    (ofEntries rows).rows = (rows.zipIdx 1).map fun (row, number) => (number, row) := by
  rw [ofEntries, rows_addAll]
  rfl

theorem mem_entries_iff {table : Table α} {entry : α} :
    entry ∈ table.entries ↔ ∃ number, (number, entry) ∈ table.rows := by
  simp [entries]

end Table

end CardCensus.Store
