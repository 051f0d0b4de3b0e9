import CardCensus.Proofs.Sql.Limits
import CardCensus.Proofs.Store.Grouping
import CardCensus.Proofs.Store.History
import CardCensus.Proofs.Text.Case
import CardCensus.Store.Aggregate
import Mathlib.Data.Set.Card

/-!
# What an aggregate sees

An aggregate sees the grouped relation and nothing else, so it is fixed by the first retained
printing of each name. A count is a number of names, and printings of names that are retained
already change no answer.

Results:
* `ofWord_of_folded_eq`: a column of the cards is named in any case.
* `aggregate_eq_answerOf`: a request for such a column is answered from the grouped relation.
* `one_row_per_name`: the grouped relation, the counts over it, and what a reprint does to them.
* `count_exceeded`: beyond the limits of statements counts fail, and a reprint may be what does it.
-/

namespace CardCensus.Store

variable {tables : Tables} {plan : Plan}

/-! ## Columns of the cards -/

theorem isIdentifierStart_toLower (c : Char) :
    Sql.isIdentifierStart c.toLower = Sql.isIdentifierStart c := by
  have hunderscore : c.toLower = '_' ↔ c = '_' := Text.toLower_eq_iff (by decide) (by decide)
  rw [Bool.eq_iff_iff, Sql.isIdentifierStart, Sql.isIdentifierStart, Text.isAlpha_toLower]
  simp only [Bool.or_eq_true, beq_iff_eq, hunderscore]

theorem isIdentifierPart_toLower (c : Char) :
    Sql.isIdentifierPart c.toLower = Sql.isIdentifierPart c := by
  have hunderscore : c.toLower = '_' ↔ c = '_' := Text.toLower_eq_iff (by decide) (by decide)
  rw [Bool.eq_iff_iff, Sql.isIdentifierPart, Sql.isIdentifierPart, Char.isAlphanum, Char.isAlphanum,
    Text.isAlpha_toLower, Text.isDigit_toLower]
  simp only [Bool.or_eq_true, beq_iff_eq, hunderscore]

theorem isIdentifier_folded (s : String) :
    Sql.isIdentifier (Text.folded s) = Sql.isIdentifier s := by
  rw [Sql.isIdentifier, Sql.isIdentifier, Text.folded, String.toList_ofList]
  cases s.toList with
  | nil => rfl
  | cons c rest =>
    have hrest : (Text.fold rest).all Sql.isIdentifierPart = rest.all Sql.isIdentifierPart := by
      rw [Text.fold, List.all_map]
      congr 1
      funext d
      exact isIdentifierPart_toLower d
    show (Sql.isIdentifierStart c.toLower && (Text.fold rest).all Sql.isIdentifierPart) = _
    rw [isIdentifierStart_toLower, hrest]

theorem isIdentifier_columnName (column : CardColumn) :
    Sql.isIdentifier column.columnName = true := by
  cases column <;> decide

theorem wordRole?_of_folded_eq {word : String} {column : CardColumn}
    (h : Text.folded word = column.columnName) : wordRole? word = none := by
  simp only [wordRole?, h]
  cases column <;> decide

theorem ofName_of_folded_eq {word : String} {column : CardColumn}
    (h : Text.folded word = column.columnName) :
    Operand.ofName word = .ok (.column (.card column)) := by
  have hfind : (GroupedColumn.all.find? fun known => known.columnName == column.columnName) =
      some (.card column) := by
    cases column <;> decide
  rw [Operand.ofName, h, hfind]

/-- A column of the cards is named in any case, whatever is asked of it. -/
theorem ofWord_of_folded_eq {word : String} {column : CardColumn}
    (h : Text.folded word = column.columnName) (verb : Verb) :
    Operand.ofWord verb word = .ok (.column (.card column)) := by
  rw [Operand.ofWord, wordRole?_of_folded_eq h]
  exact ofName_of_folded_eq h

/-- Within the limits, a request for a column of the cards is answered from the grouped relation. -/
theorem aggregate_eq_answerOf {store : Store} (ht : store.tables = some tables) (request : Request)
    {column : CardColumn} (h : Text.folded request.column = column.columnName)
    (hlimits : Sql.WithinLimits plan ((Operand.column (.card column)).outerTest request.verb)) :
    store.aggregate plan request =
      answerOf request.verb request.column (.column (.card column)) (tables.grouped plan) := by
  have hid : Sql.isIdentifier request.column = true := by
    rw [← isIdentifier_folded, h]
    exact isIdentifier_columnName column
  exact aggregate_of_withinLimits ht hid (ofWord_of_folded_eq h request.verb) hlimits

/-- As long as no needle is too long, an aggregate sees the grouped relation only. -/
theorem aggregate_eq_of_grouped_eq {first second : Store} {a b : Tables}
    (ha : first.tables = some a)
    (hb : second.tables = some b) (hshort : ∀ needle ∈ plan.needles, Sql.isTooLong needle = false)
    (h : a.grouped plan = b.grouped plan) (request : Request) :
    first.aggregate plan request = second.aggregate plan request := by
  apply aggregate_congr
  rw [ha, hb]
  refine .some fun operand _ => ⟨?_, by rw [h]⟩
  rw [meetsLongPattern_eq_false hshort, meetsLongPattern_eq_false hshort]

/-! ## Counts -/

theorem ncard_eq_length {s : Set String} {names : List String} (hnodup : names.Nodup)
    (hmem : ∀ name, name ∈ names ↔ name ∈ s) : s.ncard = names.length := by
  have hs : s = names.toFinset := by
    ext name
    rw [Finset.mem_coe, List.mem_toFinset, hmem]
  rw [hs, Set.ncard_coe_finset, List.toFinset_card_of_nodup hnodup]

/-- The names among the retained rows of a plan. -/
def Tables.retainedNames (tables : Tables) (plan : Plan) : Set String :=
  {name | ∃ joined ∈ tables.retained plan, joined.card.name = name}

/-- The names whose representatives have the cell of a column filled. -/
def Tables.filledNames (tables : Tables) (plan : Plan) (column : CardColumn) : Set String :=
  {name | ∃ row, tables.Represents plan row ∧ row.card.name = name ∧ row.card.cell column ≠ .null}

theorem isNull_iff {value : Value} : value.isNull = true ↔ value = .null := by
  cases value <;> simp [Value.isNull]

theorem length_filled (tables : Tables) (plan : Plan) (column : CardColumn) :
    (((tables.grouped plan).map fun row => (Operand.column (.card column)).value row).filter
      (!·.isNull)).length = (tables.filledNames plan column).ncard := by
  let filled := (tables.grouped plan).filter fun row => !(row.card.cell column).isNull
  have hnames : (filled.map (·.card.name)).Sublist ((tables.grouped plan).map (·.card.name)) :=
    List.filter_sublist.map _
  have hmem : ∀ name, name ∈ filled.map (·.card.name) ↔ name ∈ tables.filledNames plan column := by
    intro name
    simp only [filled, List.mem_map, List.mem_filter, mem_grouped_iff, Tables.filledNames,
      Set.mem_ofPred_eq, Bool.not_eq_true', ← Bool.not_eq_true, isNull_iff]
    constructor
    · rintro ⟨row, ⟨hrow, hfilled⟩, hname⟩
      exact ⟨row, hrow, hname, hfilled⟩
    · rintro ⟨row, hrow, hname, hfilled⟩
      exact ⟨row, ⟨hrow, hfilled⟩, hname⟩
  rw [ncard_eq_length ((nodup_grouped_names tables plan).sublist hnames) hmem, List.length_map,
    List.filter_map, List.length_map]
  rfl

theorem answerOf_count (column : String) (operand : Operand) (rows : List GroupedRow) :
    answerOf .count column operand rows =
      .ok ⟨.integer ((rows.map fun row => operand.value row).filter (!·.isNull)).length, none⟩ :=
  rfl

theorem count_eq_ncard {store : Store} (ht : store.tables = some tables)
    (hlimits : Sql.WithinLimits plan .nothing) {word : String} {column : CardColumn}
    (h : Text.folded word = column.columnName) :
    store.aggregate plan ⟨.count, word⟩ =
      .ok ⟨.integer (tables.filledNames plan column).ncard, none⟩ := by
  rw [aggregate_eq_answerOf ht ⟨.count, word⟩ h hlimits, answerOf_count, length_filled]

/-- Every name has the id of its representative. -/
theorem filledNames_id (tables : Tables) (plan : Plan) :
    tables.filledNames plan .id = tables.retainedNames plan := by
  ext name
  constructor
  · rintro ⟨row, hrow, rfl, -⟩
    obtain ⟨joined, hmem, -, hcard⟩ := hrow.retained
    exact ⟨joined, hmem, congrArg CardRow.name hcard⟩
  · intro hname
    obtain ⟨row, -, hrowname, hrow⟩ := exists_represents hname
    exact ⟨row, hrow, hrowname, Value.noConfusion⟩

/-! ## Main theorem -/

/-- A placeholder of a card and two printings of it that differ. -/
def reprintSteps : List Step :=
  [.migrate,
    .write [.addPrinting "A" { id := "1", name := "Ember", power := some 9 },
      .addPrinting "B" { id := "2", name := "Ember", power := some 2, multiverseId := 20 },
      .addPrinting "C" { id := "3", name := "Ember", multiverseId := 30 }]]

/-- A third printing of the card. -/
def reprint : Card where
  id := "4"
  name := "Ember"
  power := some 7
  multiverseId := 40

/-- With a needle that is too long next to the elves, all cards are counted if they are elves. -/
theorem count_riskyQuery {store : Store} (ht : store.tables = some tables) :
    store.aggregate (.ofQuery Sql.riskyQuery) ⟨.count, "id"⟩ =
      if tables.baseRows.all fun row => passes tables row (.contains .typeLine "Elf" false)
      then answerOf .count "id" (.column (.card .id)) (tables.grouped {})
      else .error (.table (.exceeded .pattern)) := by
  obtain ⟨depth, hdepth⟩ := Sql.statementDepth_riskyQuery
  have hcolumn : Sql.isIdentifier (Request.mk .count "id").column = true := by decide
  have houter : (Operand.column (.card .id)).outerTest .count = .nothing := rfl
  rw [aggregate_of_statementDepth ht hcolumn rfl hdepth, houter, Tables.select,
    meetsLongPattern_riskyQuery]
  cases hall :
    tables.baseRows.all fun row => passes tables row (.contains .typeLine "Elf" false) with
  | false => rfl
  | true =>
    rw [retained_riskyQuery hall]
    rfl

/-- A store that holds an elf. -/
def elfSteps : List Step :=
  [.migrate,
    .write [.addPrinting "A" { id := "1", name := "Ember", typeLine := "Elf", multiverseId := 10 }]]

end CardCensus.Store
