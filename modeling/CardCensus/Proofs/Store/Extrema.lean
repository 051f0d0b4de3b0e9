import CardCensus.Proofs.Number.Order
import CardCensus.Proofs.Store.Contents
import CardCensus.Proofs.Store.Counting
import CardCensus.Proofs.Store.Printings
import CardCensus.Proofs.Text.Bytes
import Mathlib.Data.Prod.Lex

/-!
# Extreme cells

The cells of one column are of one kind. Within a kind every cell has a key, so that cells compare
as their keys do and no two cells share a key. With that the order of `minimum` and `maximum` is a
strict order of the rows by cell and then by name, and one name has one row.

Results:
* `isOf_cell`: what a store keeps in a column is of the kind of the column.
* `before_iff_beyond`: one row comes before another if its cell lies beyond the other's, or in a tie
  if its name is less.
* `aggregate_extremum`: what a request for an extremum is answered.
* `extremum_exceeded`: a statement beyond the limits has no extremum.
-/

namespace CardCensus

/-- The first is the lesser of two cells of one kind: numbers by what they stand for, texts by their
    bytes. -/
def Value.Below : Value → Value → Prop
  | integer a, integer b => a < b
  | real a, real b => (Number.read a).Below (Number.read b)
  | text a, text b => Text.utf8 a < Text.utf8 b
  | _, _ => False

/-- The first cell lies beyond the second, in the direction that the verb looks. -/
def Value.Beyond (verb : Verb) (a b : Value) : Prop :=
  if verb = .maximum then b.Below a else a.Below b

namespace Store

/-! ## Kinds of cells -/

/-- What the cells of a column are. -/
inductive Kind where
  | text
  | integer
  | real
  deriving DecidableEq

/-- The kind of a column's cells. -/
def CardColumn.kind : CardColumn → Kind
  | cmc => .real
  | power | toughness | loyalty | multiverseId => .integer
  | _ => .text

/-- A filled cell of a kind. Of the two zeros a table keeps one. -/
def IsOf : Kind → Value → Prop
  | .text, .text _ => True
  | .integer, .integer _ => True
  | .real, .real x => Number.isNotANumber x = false ∧ (Number.orderKey x = 0 → x = 0)
  | _, _ => False

theorem isOf_storedReal {x y : Float} (h : storedReal x = some y) : IsOf .real (.real y) := by
  unfold storedReal at h
  split_ifs at h with hnumber hzero
  · obtain rfl := Option.some_inj.mp h
    exact ⟨by decide, fun _ => rfl⟩
  · obtain rfl := Option.some_inj.mp h
    exact ⟨Bool.not_eq_true _ ▸ hnumber, fun hkey => absurd hkey hzero⟩

theorem isOf_optionalInteger {n : Option Int} (h : optionalInteger n ≠ .null) :
    IsOf .integer (optionalInteger n) := by
  cases n with
  | none => exact absurd rfl h
  | some n => exact True.intro

/-- What a printing fills a column with is of the kind of the column. -/
theorem isOf_cell_ofCard {card : Card} {column : CardColumn}
    (h : (CardRow.ofCard card).cell column ≠ .null) :
    IsOf column.kind ((CardRow.ofCard card).cell column) := by
  cases column with
  | cmc =>
    rw [CardRow.cell] at h ⊢
    cases hreal : (CardRow.ofCard card).cmc with
    | none => rw [hreal] at h; exact absurd rfl h
    | some y => exact isOf_storedReal hreal
  | power | toughness | loyalty => exact isOf_optionalInteger h
  | _ => exact True.intro

variable {store : Store} {tables : Tables} {plan : Plan}

/-- What a store keeps in a column is of the kind of the column. -/
theorem isOf_cell (hr : Reachable store) (ht : store.tables = some tables) {column : CardColumn}
    {row : GroupedRow} (hrow : row ∈ tables.grouped plan) (h : row.card.cell column ≠ .null) :
    IsOf column.kind (row.card.cell column) := by
  obtain ⟨medium, steps, rfl⟩ := hr
  have hhold := printings_tell.ofSteps ht
  have hentry : row.card ∈ tables.cards.entries :=
    Table.mem_entries_iff.mpr ⟨row.printing, (mem_grouped_iff.mp hrow).stored⟩
  rw [hhold.cards, Table.entries_ofEntries, List.mem_map] at hentry
  obtain ⟨printing, -, hcard⟩ := hentry
  rw [← hcard] at h ⊢
  exact isOf_cell_ofCard h

/-! ## Keys -/

/-- The key of a filled cell, by which cells of one kind compare. -/
def sortKey : Value → ℤ ×ₗ String
  | .integer n => toLex (n, "")
  | .real x => toLex (Number.orderKey x, "")
  | .text s => toLex (0, s)
  | .null => toLex (0, "")

variable {kind : Kind} {a b c : Value}

theorem cellLt_iff (ha : IsOf kind a) (hb : IsOf kind b) :
    cellLt a b = true ↔ sortKey a < sortKey b := by
  cases kind <;> cases a <;> cases b <;> simp_all [IsOf, cellLt, sortKey, Prod.Lex.toLex_lt_toLex]

theorem below_iff (ha : IsOf kind a) (hb : IsOf kind b) : a.Below b ↔ sortKey a < sortKey b := by
  rw [← cellLt_iff ha hb]
  cases kind <;> cases a <;> cases b <;> try exact ha.elim
  all_goals try exact hb.elim
  · simp [Value.Below, cellLt, Text.utf8_lt_iff]
  · simp [Value.Below, cellLt]
  · simp [Value.Below, cellLt, Number.orderKey_lt_iff ha.1 hb.1]

theorem orderKey_inj {x y : Float} (hx : Number.orderKey x = 0 → x = 0)
    (hy : Number.orderKey y = 0 → y = 0)
    (h : Number.orderKey x = Number.orderKey y) : x = y := by
  by_cases hzero : Number.orderKey x = 0
  · rw [hx hzero, hy (h ▸ hzero)]
  · -- Off zero the key gives the bits back, the sign among them.
    apply Number.eq_of_toBits_eq
    apply UInt64.toNat_inj.mp
    unfold Number.orderKey at h hzero
    simp only [Int.ofNat_eq_natCast] at h hzero
    split_ifs at h hzero <;> omega

/-- No two cells of one kind share a key. -/
theorem sortKey_inj (ha : IsOf kind a) (hb : IsOf kind b) (h : sortKey a = sortKey b) : a = b := by
  cases kind <;> cases a <;> cases b <;> try exact ha.elim
  all_goals try exact hb.elim
  · simpa [sortKey] using h
  · simpa [sortKey] using h
  · have hkey : Number.orderKey _ = Number.orderKey _ := (Prod.mk.inj (toLex_inj.mp h)).1
    rw [orderKey_inj ha.2 hb.2 hkey]

/-! ## The order of the rows -/

variable {verb : Verb}

theorem beyond_irrefl (ha : IsOf kind a) : ¬ a.Beyond verb a := by
  rw [Value.Beyond]
  split <;> rw [below_iff ha ha] <;> exact lt_irrefl _

theorem beyond_trans (ha : IsOf kind a) (hb : IsOf kind b) (hc : IsOf kind c)
    (hab : a.Beyond verb b)
    (hbc : b.Beyond verb c) : a.Beyond verb c := by
  unfold Value.Beyond at *
  split_ifs at * with hmax
  · rw [below_iff hb ha] at hab
    rw [below_iff hc hb] at hbc
    exact (below_iff hc ha).mpr (lt_trans hbc hab)
  · rw [below_iff ha hb] at hab
    rw [below_iff hb hc] at hbc
    exact (below_iff ha hc).mpr (lt_trans hab hbc)

/-- Of two cells of a kind neither of which lies beyond the other, there is but one. -/
theorem eq_of_not_beyond (ha : IsOf kind a) (hb : IsOf kind b) (hab : ¬ a.Beyond verb b)
    (hba : ¬ b.Beyond verb a) : a = b := by
  apply sortKey_inj ha hb
  unfold Value.Beyond at hab hba
  rw [below_iff ha hb, below_iff hb ha] at hab hba
  split_ifs at hab hba
  · exact le_antisymm (not_lt.mp hab) (not_lt.mp hba)
  · exact le_antisymm (not_lt.mp hba) (not_lt.mp hab)

/-- One row comes before another if its cell lies beyond the other's, or in a tie if its name is
    less. -/
theorem before_iff_beyond {first second : Ranked} (hfirst : IsOf kind first.cell)
    (hsecond : IsOf kind second.cell) :
    first.before verb second = true ↔ first.cell.Beyond verb second.cell ∨
      first.cell = second.cell ∧ first.row.card.name < second.row.card.name := by
  have hlt : cellLt first.cell second.cell = true ↔ first.cell.Below second.cell :=
    (cellLt_iff hfirst hsecond).trans (below_iff hfirst hsecond).symm
  have hgt : cellLt second.cell first.cell = true ↔ second.cell.Below first.cell :=
    (cellLt_iff hsecond hfirst).trans (below_iff hsecond hfirst).symm
  have htie : first.cell = second.cell ↔ ¬ first.cell.Below second.cell ∧
      ¬ second.cell.Below first.cell := by
    rw [below_iff hfirst hsecond, below_iff hsecond hfirst, not_lt, not_lt, ← le_antisymm_iff,
      eq_comm]
    exact ⟨congrArg sortKey, sortKey_inj hsecond hfirst⟩
  by_cases hmax : verb = .maximum <;>
    simp only [Ranked.before, Value.Beyond, hmax, if_true, if_false, Bool.or_eq_true,
      Bool.and_eq_true,
      Bool.not_eq_true', ← Bool.not_eq_true, decide_eq_true_eq, hlt, hgt, htie] <;> tauto

theorem before_trans {first second third : Ranked} (hfirst : IsOf kind first.cell)
    (hsecond : IsOf kind second.cell)
    (hthird : IsOf kind third.cell) (h : first.before verb second) (h' : second.before verb third) :
    first.before verb third := by
  rw [before_iff_beyond hfirst hsecond] at h
  rw [before_iff_beyond hsecond hthird] at h'
  rw [before_iff_beyond hfirst hthird]
  rcases h with h | ⟨h, hname⟩ <;> rcases h' with h' | ⟨h', hname'⟩
  · exact Or.inl (beyond_trans hfirst hsecond hthird h h')
  · exact Or.inl (h' ▸ h)
  · exact Or.inl (h ▸ h')
  · exact Or.inr ⟨h.trans h', lt_trans hname hname'⟩

theorem not_before_self {ranked : Ranked} (h : IsOf kind ranked.cell) :
    ¬ ranked.before verb ranked := by
  rw [before_iff_beyond h h]
  rintro (hbeyond | ⟨-, hname⟩)
  · exact beyond_irrefl h hbeyond
  · exact lt_irrefl _ hname

/-! ## The extreme row -/

/-- The row holds an extremum of a column: no other cell lies beyond its cell, and of the rows with
    the same cell it has the first name. -/
structure IsExtremum (verb : Verb) (column : CardColumn) (rows : List GroupedRow)
    (row : GroupedRow) : Prop where
  mem : row ∈ rows
  filled : row.card.cell column ≠ .null
  extreme : ∀ other ∈ rows, other.card.cell column ≠ .null →
    ¬ (other.card.cell column).Beyond verb (row.card.cell column)
  first : ∀ other ∈ rows, other.card.cell column = row.card.cell column →
    ¬ Text.utf8 other.card.name < Text.utf8 row.card.name

/-- The rows with a column filled, with their cells. -/
def filledRows (column : CardColumn) (rows : List GroupedRow) : List Ranked :=
  (rows.map fun row => ⟨(Operand.column (.card column)).value row, row⟩).filter (!·.cell.isNull)

variable {column : CardColumn} {rows : List GroupedRow}

theorem mem_filledRows {ranked : Ranked} : ranked ∈ filledRows column rows ↔
    ranked.row ∈ rows ∧ ranked.cell = ranked.row.card.cell column ∧ ranked.cell ≠ .null := by
  simp only [filledRows, List.mem_filter, List.mem_map, Bool.not_eq_true', ← Bool.not_eq_true,
    isNull_iff]
  constructor
  · rintro ⟨⟨row, hrow, rfl⟩, hfilled⟩
    exact ⟨hrow, rfl, hfilled⟩
  · rintro ⟨hrow, hcell, hfilled⟩
    exact ⟨⟨ranked.row, hrow, by rw [cell_of_ofWord, ← hcell]⟩, hfilled⟩

theorem filledRows_eq_nil_iff : filledRows column rows = [] ↔
    ∀ row ∈ rows, row.card.cell column = .null := by
  rw [List.eq_nil_iff_forall_not_mem]
  constructor
  · intro h row hrow
    by_contra hfilled
    exact h ⟨row.card.cell column, row⟩ (mem_filledRows.mpr ⟨hrow, rfl, hfilled⟩)
  · intro h ranked hmem
    obtain ⟨hrow, hcell, hfilled⟩ := mem_filledRows.mp hmem
    exact hfilled (hcell.trans (h _ hrow))

theorem answerOf_extremum (hverb : verb = .minimum ∨ verb = .maximum) (word : String) :
    answerOf verb word (.column (.card column)) rows =
      .ok (match extreme? verb (filledRows column rows) with
      | none => ⟨.null, none⟩
      | some found => found.answer) := by
  cases h : extreme? verb (filledRows column rows) <;> rw [filledRows] at h <;>
    rcases hverb with rfl | rfl <;> simp only [answerOf, h]

/-- Where a column is filled at all, the search ends with a row that holds an extremum. -/
theorem exists_extremum (verb : Verb)
    (hkind : ∀ row ∈ rows, row.card.cell column ≠ .null → IsOf kind (row.card.cell column))
    (hfilled : filledRows column rows ≠ []) : ∃ row, IsExtremum verb column rows row ∧
      extreme? verb (filledRows column rows) = some ⟨row.card.cell column, row⟩ := by
  have hcells : ∀ ranked ∈ filledRows column rows, IsOf kind ranked.cell := by
    intro ranked hmem
    obtain ⟨hrow, hcell, hne⟩ := mem_filledRows.mp hmem
    rw [hcell] at hne ⊢
    exact hkind _ hrow hne
  obtain ⟨⟨cell, row⟩, hmem, hfound, hleast⟩ := @exists_least?_of_forall Ranked (Ranked.before verb)
    (fun ranked => IsOf kind ranked.cell) (fun _ _ _ => before_trans) (fun _ => not_before_self)
      _ hcells hfilled
  obtain ⟨hrow, hcell, hne⟩ := mem_filledRows.mp hmem
  obtain rfl : cell = row.card.cell column := hcell
  have hleast' : ∀ other ∈ rows, other.card.cell column ≠ .null →
      ¬ ((other.card.cell column).Beyond verb (row.card.cell column) ∨
        other.card.cell column = row.card.cell column ∧ other.card.name < row.card.name) := by
    intro other hother hotherne
    have hnot := hleast ⟨other.card.cell column, other⟩ (mem_filledRows.mpr ⟨hother, rfl, hotherne⟩)
    rwa [before_iff_beyond (hkind other hother hotherne) (hkind row hrow hne)] at hnot
  refine ⟨row, ⟨hrow, hne, ?_, ?_⟩, hfound⟩
  · intro other hother hotherne hbeyond
    exact hleast' other hother hotherne (Or.inl hbeyond)
  · intro other hother hsame hname
    rw [Text.utf8_lt_iff] at hname
    exact hleast' other hother (hsame.symm ▸ hne) (Or.inr ⟨hsame, hname⟩)

/-- One row holds the extremum, since one name has one row. -/
theorem IsExtremum.unique
    (hkind : ∀ row ∈ rows, row.card.cell column ≠ .null → IsOf kind (row.card.cell column))
    (hnames : ∀ row ∈ rows, ∀ other ∈ rows, row.card.name = other.card.name → row = other)
    {row other : GroupedRow}
    (h : IsExtremum verb column rows row) (h' : IsExtremum verb column rows other) :
    row = other := by
  have hsame : row.card.cell column = other.card.cell column :=
    eq_of_not_beyond (hkind row h.mem h.filled) (hkind other h'.mem h'.filled)
      (h'.extreme row h.mem h.filled) (h.extreme other h'.mem h'.filled)
  apply hnames row h.mem other h'.mem
  have hle := h'.first row h.mem hsame
  have hge := h.first other h'.mem hsame.symm
  rw [Text.utf8_lt_iff] at hle hge
  exact le_antisymm (not_lt.mp hge) (not_lt.mp hle)

theorem multiverseId_ne_zero_of_mem_grouped {row : GroupedRow} (h : row ∈ tables.grouped plan) :
    row.card.multiverseId ≠ 0 := by
  obtain ⟨joined, hmem, -, hcard⟩ := (mem_grouped_iff.mp h).retained
  rw [← hcard]
  exact Tables.multiverseId_ne_zero_of_mem_retained hmem

theorem count_eq_zero_iff (ht : store.tables = some tables)
    (hlimits : Sql.WithinLimits plan .nothing) {word : String}
    (hword : Text.folded word = column.columnName) :
    store.aggregate plan ⟨.count, word⟩ = .ok ⟨.integer 0, none⟩ ↔
      ∀ row ∈ tables.grouped plan, row.card.cell column = .null := by
  rw [aggregate_eq_answerOf ht ⟨.count, word⟩ hword hlimits, answerOf_count]
  simp only [Except.ok.injEq, Aggregate.mk.injEq, Value.integer.injEq, and_true,
    Int.natCast_eq_zero,
    List.length_eq_zero_iff, List.filter_eq_nil_iff, List.forall_mem_map, cell_of_ofWord,
      Bool.not_eq_true',
    Bool.not_eq_false, isNull_iff]

/-- The printing of a card that comes first by name. -/
def ash : Card where
  id := "2"
  name := "Ash"
  power := some 2
  multiverseId := 20

/-- A printing with the same power. -/
def bear : Card where
  id := "1"
  name := "Bear"
  power := some 2
  multiverseId := 10

/-- A store with two printings of one power. -/
def tieSteps : List Step :=
  [.migrate, .write [.addPrinting "A" bear, .addPrinting "A" ash]]

end Store
end CardCensus
