import CardCensus.Proofs.Number.Total
import CardCensus.Proofs.Store.Extrema

/-!
# Sums and averages

The cells of a column are added up in the order of the names. A column of integers has their sum,
unless a running total leaves the 64 bits. A column of texts has neither a sum nor an average. A
column of numbers has an average wherever it is filled, except where doubles are so large that their
total is no number: then the average is empty, as if nothing had been found.

Results:
* `sumOf_of_fits` and `sumOf_of_overflow`: the sum of a column of integers.
* `averageOf_eq_null_iff`: where a column of ordinary numbers has no average.
* `aggregate_total`: what a request for a sum or an average is answered.
-/

namespace CardCensus.Store

/-! ## Cells -/

/-- The integer in a cell. -/
def integer? : Value → Option Int
  | .integer n => some n
  | _ => none

/-- The integers in a column, in the order of the rows. -/
def integersOf (column : CardColumn) (rows : List GroupedRow) : List Int :=
  rows.filterMap fun row => integer? (row.card.cell column)

/-- The cell is empty, an integer of 64 bits, or a double that is no larger than `2 ^ 912`. -/
def IsOrdinary : Value → Prop
  | .integer n => Number.fitsInt64 n = true
  | .real x => Number.IsWithin 912 x
  | .text _ | .null => True

/-- A request is answered, but there is nothing to show. -/
def FindsNothing (store : Store) (plan : Plan) (request : Request) : Prop :=
  ∃ answer, store.aggregate plan request = .ok answer ∧ answer.isNotFound request.verb = true

theorem summand?_eq_none_iff {cell : Value} : summand? cell = none ↔ cell = .null := by
  cases cell with
  | text s => cases h : integerText? s <;> simp [summand?, h]
  | integer | real | null => simp [summand?]

section

variable {kind : Kind} {cells : List Value}

theorem filterMap_summand?_eq_nil_iff : cells.filterMap summand? = [] ↔
    ∀ cell ∈ cells, cell = .null := by
  simp only [List.filterMap_eq_nil_iff, summand?_eq_none_iff]

theorem any_isText_iff (h : ∀ cell ∈ cells, cell ≠ .null → IsOf kind cell) :
    cells.any isText = true ↔ kind = .text ∧ ∃ cell ∈ cells, cell ≠ .null := by
  have hcell : ∀ cell, cell ≠ .null → IsOf kind cell → (isText cell = true ↔ kind = .text) := by
    intro cell hne hof
    cases kind <;> cases cell <;> first | exact hof.elim | simp [isText]
  rw [List.any_eq_true]
  constructor
  · rintro ⟨cell, hmem, htext⟩
    have hne : cell ≠ .null := by
      rintro rfl
      exact Bool.false_ne_true htext
    exact ⟨(hcell cell hne (h cell hmem hne)).mp htext, cell, hmem, hne⟩
  · rintro ⟨hkind, cell, hmem, hne⟩
    exact ⟨cell, hmem, (hcell cell hne (h cell hmem hne)).mpr hkind⟩

theorem any_isText_of_null (h : ∀ cell ∈ cells, cell = .null) : cells.any isText = false := by
  rw [List.any_eq_false]
  intro cell hmem
  rw [h cell hmem]
  exact Bool.false_ne_true

/-! ## Sums -/

theorem filterMap_summand?_of_integers (h : ∀ cell ∈ cells, cell ≠ .null → IsOf .integer cell) :
    cells.filterMap summand? = (cells.filterMap integer?).map .integer := by
  rw [List.map_filterMap]
  apply List.filterMap_congr
  intro cell hmem
  cases cell with
  | null | integer => rfl
  | text | real => exact (h _ hmem Value.noConfusion).elim

theorem sumOf_of_null (h : ∀ cell ∈ cells, cell = .null) : sumOf cells = .ok .null := by
  rw [sumOf, filterMap_summand?_eq_nil_iff.mpr h]
  rfl

/-- Integers whose running totals fit have their sum. -/
theorem sumOf_of_fits (h : ∀ cell ∈ cells, cell ≠ .null → IsOf .integer cell)
    (hfilled : ∃ cell ∈ cells, cell ≠ .null)
    (hfits : ∀ taken, taken <+: cells.filterMap integer? → Number.fitsInt64 taken.sum = true) :
    sumOf cells = .ok (.integer (cells.filterMap integer?).sum) := by
  have hsome : (cells.filterMap summand?).isEmpty = false := by
    obtain ⟨cell, hmem, hne⟩ := hfilled
    rw [List.isEmpty_eq_false_iff, ne_eq, filterMap_summand?_eq_nil_iff]
    exact fun hnull => hne (hnull cell hmem)
  rw [filterMap_summand?_of_integers h] at hsome
  rw [sumOf, filterMap_summand?_of_integers h, Number.Total.ofList_integers hfits, hsome]
  rfl

/-- Integers with a running total that does not fit have none. -/
theorem sumOf_of_overflow (h : ∀ cell ∈ cells, cell ≠ .null → IsOf .integer cell) {taken : List Int}
    (htaken : taken <+: cells.filterMap integer?) (hover : Number.fitsInt64 taken.sum = false) :
    sumOf cells = .error .integerOverflow := by
  obtain ⟨total, error, htotal⟩ := Number.Total.ofList_integers_overflowed htaken hover
  have hsome : ((cells.filterMap integer?).map Number.Summand.integer).isEmpty = false := by
    rw [List.isEmpty_eq_false_iff]
    intro hnil
    rw [List.map_eq_nil_iff.mp hnil] at htotal
    exact nomatch htotal
  rw [sumOf, filterMap_summand?_of_integers h, htotal, hsome]
  rfl

/-! ## Averages -/

theorem isBoundedSummand_of_isOrdinary {cell : Value} {summand : Number.Summand}
    (hkind : cell ≠ .null → IsOf kind cell) (hnumbers : kind ≠ .text) (h : IsOrdinary cell)
    (hsummand : summand? cell = some summand) : Number.Total.IsBoundedSummand 912 summand := by
  cases cell with
  | null => exact nomatch hsummand
  | text s =>
    have htext := hkind Value.noConfusion
    cases kind <;> first | exact htext.elim | exact absurd rfl hnumbers
  | integer | real =>
    obtain rfl := Option.some.inj hsummand
    exact h

/-- Where a column of ordinary numbers has no average. -/
theorem averageOf_eq_null_iff (hkind : ∀ cell ∈ cells, cell ≠ .null → IsOf kind cell)
    (hnumbers : kind ≠ .text)
    (h : ∀ cell ∈ cells, IsOrdinary cell) : averageOf cells = .null ↔
      ∀ cell ∈ cells, cell = .null := by
  rw [← filterMap_summand?_eq_nil_iff, averageOf]
  by_cases hempty : cells.filterMap summand? = []
  · rw [hempty]
    exact iff_of_true rfl rfl
  · have hbounded : ∀ summand ∈ cells.filterMap summand?,
        Number.Total.IsBoundedSummand 912 summand := by
      intro summand hmem
      obtain ⟨cell, hcell, hsummand⟩ := List.mem_filterMap.mp hmem
      exact isBoundedSummand_of_isOrdinary (hkind cell hcell) hnumbers (h cell hcell) hsummand
    have htotal := Number.Total.isWithin_toReal_ofList (by norm_num) le_rfl hbounded
    have hnumber := Number.isNotANumber_div_ofInt htotal (List.length_pos_of_ne_nil hempty)
    rw [if_neg (mt List.isEmpty_iff.mp hempty), realAnswer, hnumber]
    exact iff_of_false Value.noConfusion hempty

theorem averageOf_of_null (h : ∀ cell ∈ cells, cell = .null) : averageOf cells = .null := by
  rw [averageOf, filterMap_summand?_eq_nil_iff.mpr h]
  rfl

end

/-! ## Answers -/

section

variable {store : Store} {tables : Tables} {plan : Plan} {column : CardColumn} {word : String}

theorem findsNothing_iff {request : Request} {answer : Aggregate}
    (h : store.aggregate plan request = .ok answer) :
    FindsNothing store plan request ↔ answer.isNotFound request.verb = true := by
  rw [FindsNothing, h]
  exact ⟨fun ⟨_, heq, hfound⟩ => Except.ok.inj heq ▸ hfound, fun hfound => ⟨answer, rfl, hfound⟩⟩

theorem sum_eq (ht : store.tables = some tables) (hlimits : Sql.WithinLimits plan .nothing)
    (hword : Text.folded word = column.columnName) :
    store.aggregate plan ⟨.sum, word⟩ =
      match sumOf ((tables.grouped plan).map (·.card.cell column)) with
      | .error cause => .error (.table cause)
      | .ok total =>
        if ((tables.grouped plan).map (·.card.cell column)).any isText
          then .error (.typeMismatch word)
        else .ok ⟨total, none⟩ := by
  rw [aggregate_eq_answerOf ht ⟨.sum, word⟩ hword hlimits]
  rfl

theorem average_eq (ht : store.tables = some tables) (hlimits : Sql.WithinLimits plan .nothing)
    (hword : Text.folded word = column.columnName) :
    store.aggregate plan ⟨.average, word⟩ =
      if ((tables.grouped plan).map (·.card.cell column)).any isText
        then .error (.typeMismatch word)
      else .ok ⟨averageOf ((tables.grouped plan).map (·.card.cell column)), none⟩ := by
  rw [aggregate_eq_answerOf ht ⟨.average, word⟩ hword hlimits]
  rfl

theorem isOf_cells (hr : Reachable store) (ht : store.tables = some tables) (plan : Plan)
    (column : CardColumn) :
    ∀ cell ∈ (tables.grouped plan).map (·.card.cell column), cell ≠ .null → IsOf column.kind cell :=
  List.forall_mem_map.mpr fun _ hrow => isOf_cell hr ht hrow

theorem any_isText_of_ne_text (hr : Reachable store) (ht : store.tables = some tables) (plan : Plan)
    (hkind : column.kind ≠ .text) : ((tables.grouped plan).map (·.card.cell column)).any isText =
      false := by
  rw [← Bool.not_eq_true, any_isText_iff (isOf_cells hr ht plan column)]
  exact fun h => hkind h.1

theorem integersOf_eq (column : CardColumn) (rows : List GroupedRow) :
    integersOf column rows = (rows.map (·.card.cell column)).filterMap integer? := by
  rw [integersOf, List.filterMap_map]
  rfl

/-- Where a column is filled, its cells are not all empty. -/
theorem exists_cell {rows : List GroupedRow} (h : ∃ row ∈ rows, row.card.cell column ≠ .null) :
    ∃ cell ∈ rows.map (·.card.cell column), cell ≠ .null :=
  let ⟨_, hrow, hne⟩ := h
  ⟨_, List.mem_map_of_mem hrow, hne⟩

theorem sum_of_unfilled (ht : store.tables = some tables) (hlimits : Sql.WithinLimits plan .nothing)
    (hword : Text.folded word = column.columnName)
    (h : ∀ row ∈ tables.grouped plan, row.card.cell column = .null) :
    store.aggregate plan ⟨.sum, word⟩ = .ok ⟨.null, none⟩ := by
  have hcells : ∀ cell ∈ (tables.grouped plan).map (·.card.cell column), cell = .null :=
    List.forall_mem_map.mpr h
  rw [sum_eq ht hlimits hword, sumOf_of_null hcells, any_isText_of_null hcells]
  rfl

/-- A column of integers has the sum of the integers. -/
theorem sum_of_fits (hr : Reachable store) (ht : store.tables = some tables)
    (hlimits : Sql.WithinLimits plan .nothing)
    (hword : Text.folded word = column.columnName) (hkind : column.kind = .integer)
    (hfilled : ∃ row ∈ tables.grouped plan, row.card.cell column ≠ .null)
    (hfits : ∀ taken, taken <+: integersOf column (tables.grouped plan) →
      Number.fitsInt64 taken.sum = true) :
    store.aggregate plan ⟨.sum, word⟩ =
      .ok ⟨.integer (integersOf column (tables.grouped plan)).sum, none⟩ := by
  have hof := isOf_cells hr ht plan column
  have htext := any_isText_of_ne_text hr ht plan (hkind ▸ Kind.noConfusion : column.kind ≠ .text)
  rw [hkind] at hof
  rw [integersOf_eq] at hfits ⊢
  rw [sum_eq ht hlimits hword, sumOf_of_fits hof (exists_cell hfilled) hfits, htext]
  rfl

/-- A running total that does not fit fails the sum. -/
theorem sum_of_overflow (hr : Reachable store) (ht : store.tables = some tables)
    (hlimits : Sql.WithinLimits plan .nothing)
    (hword : Text.folded word = column.columnName) (hkind : column.kind = .integer)
    {taken : List Int}
    (htaken : taken <+: integersOf column (tables.grouped plan))
    (hover : Number.fitsInt64 taken.sum = false) :
    store.aggregate plan ⟨.sum, word⟩ = .error (.table .integerOverflow) := by
  have hof := isOf_cells hr ht plan column
  rw [hkind] at hof
  rw [integersOf_eq] at htaken
  rw [sum_eq ht hlimits hword, sumOf_of_overflow hof htaken hover]

theorem findsNothing_sum_iff (hr : Reachable store) (ht : store.tables = some tables)
    (hlimits : Sql.WithinLimits plan .nothing)
    (hword : Text.folded word = column.columnName) (hkind : column.kind = .integer) :
    FindsNothing store plan ⟨.sum, word⟩ ↔ ∀ row ∈ tables.grouped plan, row.card.cell column =
      .null := by
  constructor
  · rintro ⟨answer, hanswer, hnothing⟩
    by_contra hfilled
    push Not at hfilled
    by_cases hfits : ∀ taken, taken <+: integersOf column (tables.grouped plan) →
      Number.fitsInt64 taken.sum = true
    · rw [sum_of_fits hr ht hlimits hword hkind hfilled hfits] at hanswer
      rw [← Except.ok.inj hanswer] at hnothing
      exact Bool.false_ne_true hnothing
    · push Not at hfits
      obtain ⟨taken, htaken, hover⟩ := hfits
      rw [sum_of_overflow hr ht hlimits hword hkind htaken (Bool.eq_false_iff.mpr hover)] at hanswer
      exact nomatch hanswer
  · exact fun h => ⟨_, sum_of_unfilled ht hlimits hword h, rfl⟩

/-- Neither a sum nor an average is made of texts. -/
theorem fails_of_text (hr : Reachable store) (ht : store.tables = some tables)
    (hlimits : Sql.WithinLimits plan .nothing)
    (hword : Text.folded word = column.columnName) (hkind : column.kind = .text)
    (hfilled : ∃ row ∈ tables.grouped plan, row.card.cell column ≠ .null) :
    (∃ cause, store.aggregate plan ⟨.sum, word⟩ = .error cause) ∧
      store.aggregate plan ⟨.average, word⟩ = .error (.typeMismatch word) := by
  have htext := (any_isText_iff (isOf_cells hr ht plan column)).mpr ⟨hkind, exists_cell hfilled⟩
  constructor
  · rw [sum_eq ht hlimits hword]
    cases sumOf ((tables.grouped plan).map (·.card.cell column)) with
    | error cause => exact ⟨_, rfl⟩
    | ok total => exact ⟨_, if_pos htext⟩
  · rw [average_eq ht hlimits hword, if_pos htext]

theorem average_of_unfilled (ht : store.tables = some tables)
    (hlimits : Sql.WithinLimits plan .nothing) (hword : Text.folded word = column.columnName)
    (h : ∀ row ∈ tables.grouped plan, row.card.cell column = .null) :
    store.aggregate plan ⟨.average, word⟩ = .ok ⟨.null, none⟩ := by
  have hcells : ∀ cell ∈ (tables.grouped plan).map (·.card.cell column), cell = .null :=
    List.forall_mem_map.mpr h
  rw [average_eq ht hlimits hword, any_isText_of_null hcells, averageOf_of_null hcells]
  rfl

/-- An average is made of every column of numbers. -/
theorem average_of_numbers (hr : Reachable store) (ht : store.tables = some tables)
    (hlimits : Sql.WithinLimits plan .nothing)
    (hword : Text.folded word = column.columnName) (hkind : column.kind ≠ .text) :
    store.aggregate plan ⟨.average, word⟩ =
      .ok ⟨averageOf ((tables.grouped plan).map (·.card.cell column)), none⟩ := by
  rw [average_eq ht hlimits hword, any_isText_of_ne_text hr ht plan hkind]
  rfl

end

/-- A printing with a mana value whose double is close to the greatest one. -/
def vast (id name : String) (power : Int) : Card where
  id := id
  name := name
  cmc := .ofBits 0x7FEAB36D48E1ACF0
  power := some power
  multiverseId := 1

/-- A store with two such printings. -/
def vastSteps : List Step :=
  [.migrate, .write [.addPrinting "A" (vast "1" "Bear" 3), .addPrinting "A" (vast "2" "Ash" 2)]]

/-- The rows of the store, in the order of their names. -/
def vastRows : List GroupedRow :=
  [⟨.ofCard (vast "2" "Ash" 2), 2⟩, ⟨.ofCard (vast "1" "Bear" 3), 1⟩]

theorem tables_vast : (after {} vastSteps).tables = some ((after {} vastSteps).tables.getD {}) :=
  rfl

theorem grouped_vast : ((after {} vastSteps).tables.getD {}).grouped {} = vastRows := by
  have hnames :
      sortedDistinct ((((after {} vastSteps).tables.getD {}).retained {}).map (·.card.name)) =
      ["Ash", "Bear"] := by
    apply sortedDistinct_eq_of_ascending (by decide)
    have hretained : (((after {} vastSteps).tables.getD {}).retained {}).map (·.card.name) =
        ["Bear", "Ash"] := by
      decide
    rw [hretained]
    simp [or_comm]
  rw [Tables.grouped, groupRows, hnames]
  decide

end CardCensus.Store
