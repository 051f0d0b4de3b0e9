import CardCensus.Least
import CardCensus.Number.Integer
import CardCensus.Number.Total
import CardCensus.Sql.Grouped
import CardCensus.Store.Operand
import CardCensus.Store.Scan
import CardCensus.Store.Write
import CardCensus.Text.Blank

/-!
# Aggregates over the grouped relation

* `count` counts the filled cells of a column.
* `sum` and `average` add up the cells in ascending order of names; a text that reads as an integer
  is added as one, but a column with any text is refused in the end.
* `minimum` and `maximum` find the extreme cell, the first name in order winning a tie.

Results:
* `aggregate_of_not_isIdentifier`: a column that is no column name is refused before any table is
  read.
* `serve_of_statementDepth`, `serve_of_accepted`: a statement that is not refused gives its rows.
* `accepted_or_refused`: a statement is accepted, or it is refused by every store alike.
* `aggregate_congr`: an answer depends on what the grouped relation gives the operand.
-/

namespace CardCensus

/-- A card that an answer shows. -/
structure CardReference where
  name : String
  multiverseId : Int
  deriving Repr, DecidableEq, Inhabited

/-- The answer to a request. -/
structure Aggregate where
  value : Value
  card : Option CardReference := none
  deriving DecidableEq, Inhabited

/-- The answer has nothing to show for the verb that was asked (`is_not_found`). -/
def Aggregate.isNotFound (verb : Verb) (aggregate : Aggregate) : Bool :=
  match verb with
  | .count => false
  | .minimum | .maximum => aggregate.card.isNone
  | .sum | .average => aggregate.value.isNull

namespace Store

/-- The white space that a number in a cell may have around it. -/
def isCellSpace (c : Char) : Bool :=
  c == ' ' || (9 ≤ c.toNat && c.toNat ≤ 13)

/-- The integer of 64 bits that a text in a cell reads as. -/
def integerText? (s : String) : Option Int :=
  Number.int64? ((s.toList.dropWhile isCellSpace).reverse.dropWhile isCellSpace).reverse

/-- What a cell adds to a total. Which double a text stands for that is no integer never shows,
    since a total of texts is refused. -/
def summand? : Value → Option Number.Summand
  | .integer n => some (.integer n)
  | .real x => some (.real x)
  | .text s => match integerText? s with
    | some n => some (.integer n)
    | none => some (.real 0)
  | .null => none

/-- The cell is a text. -/
def isText : Value → Bool
  | .text _ => true
  | _ => false

/-- The first cell comes strictly before the second: empty cells, then numbers, then texts
    by bytes. -/
def cellLt : Value → Value → Bool
  | .null, .null => false
  | .null, _ => true
  | .integer a, .integer b => a < b
  | .real a, .real b => Number.orderKey a < Number.orderKey b
  | .integer a, .real b => Number.orderKey (.ofInt a) < Number.orderKey b
  | .real a, .integer b => Number.orderKey a < Number.orderKey (.ofInt b)
  | .integer _, .text _ | .real _, .text _ => true
  | .text a, .text b => a < b
  | _, _ => false

/-- A row with the cell that it is ordered by. -/
structure Ranked where
  cell : Value
  row : GroupedRow
  deriving DecidableEq

/-- The first comes before the second in the order of the verb: by cell, then by name. -/
def Ranked.before (verb : Verb) (a b : Ranked) : Bool :=
  let (first, second) := if verb = .maximum then (b.cell, a.cell) else (a.cell, b.cell)
  cellLt first second || (!cellLt second first && a.row.card.name < b.row.card.name)

/-- The row that comes first in the order of the verb. -/
def extreme? (verb : Verb) (rows : List Ranked) : Option Ranked :=
  least? (Ranked.before verb) rows

/-- The answer of an extreme row. -/
def Ranked.answer (ranked : Ranked) : Aggregate :=
  ⟨ranked.cell, some ⟨ranked.row.card.name, ranked.row.card.multiverseId⟩⟩

/-- A double as an answer; no number is an empty cell. -/
def realAnswer (x : Float) : Value :=
  if Number.isNotANumber x then .null else .real x

/-- The total of cells, empty when there is none to add. -/
def sumOf (cells : List Value) : Except TableError Value :=
  let summands := cells.filterMap summand?
  if summands.isEmpty then .ok .null
  else match Number.Total.ofList summands with
    | .exact total => .ok (.integer total)
    | .rounded total error false => .ok (realAnswer (Number.Total.corrected total error))
    | .rounded _ _ true => .error .integerOverflow

/-- The average of cells, empty when there is none to add. -/
def averageOf (cells : List Value) : Value :=
  let summands := cells.filterMap summand?
  if summands.isEmpty then .null
  else realAnswer ((Number.Total.ofList summands).toReal / .ofInt summands.length)

/-- The answer to a verb over the rows of the grouped relation. -/
def answerOf (verb : Verb) (column : String) (operand : Operand) (rows : List GroupedRow) :
    Except StoreError Aggregate :=
  let cells := rows.map fun row => operand.value row
  match verb with
  | .count => .ok ⟨.integer (cells.filter (!·.isNull)).length, none⟩
  | .sum => match sumOf cells with
    | .error cause => .error (.table cause)
    | .ok total => if cells.any isText then .error (.typeMismatch column) else .ok ⟨total, none⟩
  | .average =>
    if cells.any isText then .error (.typeMismatch column) else .ok ⟨averageOf cells, none⟩
  | .minimum | .maximum =>
    let ranked := (rows.map fun row => Ranked.mk (operand.value row) row).filter (!·.cell.isNull)
    match extreme? verb ranked with
    | none => .ok ⟨.null, none⟩
    | some found => .ok found.answer

/-! ## Statements over the tables -/

/-- The tables that the statement of a plan reads, and how deep its condition is by then. -/
def prepare (store : Store) (plan : Plan) : Except TableError (Tables × Nat) := do
  let depth ← (Sql.readCondition plan).mapError .exceeded
  match store.tables with
  | none => throw (.noSuchTable Plan.base.table)
  | some tables => return (tables, ← (Sql.joinConditions plan depth).mapError .exceeded)

/-- The rows that a plan retains in a store, if its statement is not refused. -/
def select (store : Store) (plan : Plan) : Except TableError (List JoinedRow) := do
  let (tables, _) ← store.prepare plan
  (tables.select plan .nothing).mapError .exceeded

/-- What the statement of a request is taken of, and the rows of the grouped relation. What keeps a
    statement from being read comes to light first, what keeps it from being understood next, and
    last what a row comes upon. -/
def serve (store : Store) (plan : Plan) (request : Request) :
    Except TableError (Operand × List GroupedRow) := do
  checkSyntax request
  let (tables, depth) ← store.prepare plan
  let operand ← Operand.ofWord request.verb request.column
  let outer := operand.outerTest request.verb
  let _ ← (outer.connect depth).mapError .exceeded
  return (operand, groupRows (← (tables.select plan outer).mapError .exceeded))

/-- The answer of a store to a request over a plan (`execute_one`). -/
def aggregate (store : Store) (plan : Plan) (request : Request) : Except StoreError Aggregate := do
  let _ ← Sql.aggregateStatement plan request
  let (operand, rows) ← (store.serve plan request).mapError .table
  answerOf request.verb request.column operand rows

/-- The rows of the grouped relation in the order of their row numbers: name, id and row number. -/
def matching (store : Store) (plan : Plan) : Except StoreError (List (List Value)) := do
  let rows ← (store.select plan).mapError .table
  return ((groupRows rows).mergeSort fun a b => a.printing ≤ b.printing).map fun row =>
    [.text row.card.name, .text row.card.id, .integer row.printing]

/-! ## The stages of a statement -/

variable {plan : Plan} {request : Request}

theorem aggregate_of_not_isIdentifier {store : Store}
    (h : Sql.isIdentifier request.column = false) :
    store.aggregate plan request = .error (.invalidColumn request.column) := by
  rw [aggregate, Sql.aggregateStatement, Sql.aggregateStatementOver_of_not_isIdentifier h]
  rfl

/-- What a store answers once the column of a request is known to be a column name. -/
theorem aggregate_of_isIdentifier (h : Sql.isIdentifier request.column = true)
    (store : Store) (plan : Plan) : store.aggregate plan request =
      match store.serve plan request with
      | .error cause => .error (.table cause)
      | .ok (operand, rows) => answerOf request.verb request.column operand rows := by
  rw [aggregate, Sql.aggregateStatement, Sql.aggregateStatementOver, if_pos h]
  cases store.serve plan request <;> rfl

theorem checkSyntax_eq_error {cause : TableError}
    (h : checkSyntax request = .error cause) :
    Operand.ofWord request.verb request.column = .error cause := by
  unfold checkSyntax at h
  split at h
  · rename_i hoperand
    cases h
    exact hoperand
  · cases h
  · cases h

/-- A condition that is nested too deeply, or has too many question marks, fails every request whose
    column can stand in a statement. -/
theorem aggregate_of_unreadable {limit : Limit} (hread : Sql.readCondition plan = .error limit)
    (hcolumn : Sql.isIdentifier request.column = true) (hchecked : checkSyntax request = .ok ())
    (store : Store) : store.aggregate plan request = .error (.table (.exceeded limit)) := by
  rw [aggregate_of_isIdentifier hcolumn, serve, prepare, hchecked, hread]
  rfl

/-- A condition that can be read meets the tables next. -/
theorem prepare_of_readCondition {read : Nat} (hread : Sql.readCondition plan = .ok read)
    (store : Store) :
    store.prepare plan = match store.tables with
      | none => .error (.noSuchTable Plan.base.table)
      | some tables => match Sql.joinConditions plan read with
        | .error limit => .error (.exceeded limit)
        | .ok joined => .ok (tables, joined) := by
  rw [prepare, hread]
  cases store.tables with
  | none => rfl
  | some tables =>
    change ((Sql.joinConditions plan read).mapError TableError.exceeded).bind
      (fun joined => .ok (tables, joined)) = _
    cases Sql.joinConditions plan read <;> rfl

/-- The stages of a statement that can be read. -/
theorem serve_of_readCondition {read : Nat} (hchecked : checkSyntax request = .ok ())
    (hread : Sql.readCondition plan = .ok read) (store : Store) :
    store.serve plan request = match store.tables with
      | none => .error (.noSuchTable Plan.base.table)
      | some tables => match Sql.joinConditions plan read with
        | .error limit => .error (.exceeded limit)
        | .ok joined => (Operand.ofWord request.verb request.column).bind fun operand =>
          match (operand.outerTest request.verb).connect joined with
          | .error limit => .error (.exceeded limit)
          | .ok _ => match tables.select plan (operand.outerTest request.verb) with
            | .error limit => .error (.exceeded limit)
            | .ok rows => .ok (operand, groupRows rows) := by
  rw [serve, hchecked, prepare_of_readCondition hread]
  cases store.tables with
  | none => rfl
  | some tables => cases Sql.joinConditions plan read with
    | error limit => rfl
    | ok joined => cases Operand.ofWord request.verb request.column with
      | error cause => rfl
      | ok operand =>
        dsimp only [bind, Except.bind]
        cases (operand.outerTest request.verb).connect joined with
        | error limit => rfl
        | ok depth => cases tables.select plan (operand.outerTest request.verb) <;> rfl

/-- A statement that is not refused gives what its rows give, unless its column is refused or there
    is no table to read. -/
theorem serve_of_statementDepth {depth : Nat}
    (h : Sql.statementDepth plan (outerTest request) = .ok depth) (store : Store) :
    store.serve plan request = (checkSyntax request).bind fun _ => match store.tables with
      | none => .error (.noSuchTable Plan.base.table)
      | some tables => (Operand.ofWord request.verb request.column).bind fun operand =>
          match tables.select plan (outerTest request) with
          | .error limit => .error (.exceeded limit)
          | .ok rows => .ok (operand, groupRows rows) := by
  obtain ⟨read, joined, hread, hjoined, hdepth⟩ := Sql.stages_of_statementDepth h
  cases hchecked : checkSyntax request with
  | error cause =>
    rw [serve, hchecked]
    rfl
  | ok =>
    rw [serve_of_readCondition hchecked hread, hjoined]
    cases hoperand : Operand.ofWord request.verb request.column with
    | error cause => rfl
    | ok operand =>
      rw [outerTest, hoperand] at hdepth ⊢
      dsimp only [Except.bind] at hdepth ⊢
      rw [hdepth]

/-- A statement that is accepted gives what its rows give, if there are tables. -/
theorem serve_of_accepted {operand : Operand} {depth : Nat}
    (hoperand : Operand.ofWord request.verb request.column = .ok operand)
    (h : Sql.statementDepth plan (operand.outerTest request.verb) = .ok depth) (store : Store) :
    store.serve plan request = match store.tables with
      | none => .error (.noSuchTable Plan.base.table)
      | some tables => match tables.select plan (operand.outerTest request.verb) with
        | .error limit => .error (.exceeded limit)
        | .ok rows => .ok (operand, groupRows rows) := by
  have houter : outerTest request = operand.outerTest request.verb := by rw [outerTest, hoperand]
  have hchecked : checkSyntax request = .ok () := by rw [checkSyntax, hoperand]
  rw [serve_of_statementDepth (houter ▸ h), hchecked, hoperand, houter]
  rfl

/-- Why a store does not serve a request. -/
inductive Refusal (request : Request) : TableError → Prop where
  | column {cause : TableError} (h : Operand.ofWord request.verb request.column = .error cause) :
    Refusal request cause
  | noTable : Refusal request (.noSuchTable Plan.base.table)
  | limit (limit : Limit) : Refusal request (.exceeded limit)

/-- The statement of a request is refused before any row is read, for a cause that depends on a
    store only in that there are tables or not. -/
def IsRefused (plan : Plan) (request : Request) : Prop :=
  ∃ cause : Bool → TableError, (∀ migrated, Refusal request (cause migrated)) ∧
    ∀ store : Store, store.serve plan request = .error (cause store.tables.isSome)

/-- Where the condition can be read, a store without tables is refused for that. -/
theorem isRefused_of_tables {read : Nat} (hchecked : checkSyntax request = .ok ())
    (hread : Sql.readCondition plan = .ok read) {cause : TableError}
    (hcause : Refusal request cause)
    (h : ∀ (store : Store) (tables : Tables), store.tables = some tables →
      store.serve plan request = .error cause) : IsRefused plan request := by
  refine ⟨fun migrated => if migrated then cause else .noSuchTable Plan.base.table, ?_, ?_⟩
  · rintro (- | -)
    · exact .noTable
    · exact hcause
  · intro store
    cases htables : store.tables with
    | none =>
      rw [serve_of_readCondition hchecked hread, htables]
      rfl
    | some tables => exact h store tables htables

/-- The statement of a request is accepted, or it is refused by every store alike. -/
theorem accepted_or_refused (plan : Plan) (request : Request) :
    (∃ operand depth, Operand.ofWord request.verb request.column = .ok operand ∧
      Sql.statementDepth plan (operand.outerTest request.verb) = .ok depth) ∨
    IsRefused plan request := by
  cases hchecked : checkSyntax request with
  | error cause =>
    refine Or.inr ⟨fun _ => cause, fun _ => .column (checkSyntax_eq_error hchecked), fun _ => ?_⟩
    rw [serve, hchecked]
    rfl
  | ok => cases hread : Sql.readCondition plan with
    | error limit =>
      refine Or.inr ⟨fun _ => .exceeded limit, fun _ => .limit limit, fun _ => ?_⟩
      rw [serve, hchecked, prepare, hread]
      rfl
    | ok read =>
      have hserve := serve_of_readCondition hchecked hread
      cases hjoined : Sql.joinConditions plan read with
      | error limit =>
        refine Or.inr (isRefused_of_tables hchecked hread (.limit limit) fun _ _ ht => ?_)
        rw [hserve, ht, hjoined]
      | ok joined => cases hoperand : Operand.ofWord request.verb request.column with
        | error cause =>
          refine Or.inr (isRefused_of_tables hchecked hread (.column hoperand) fun _ _ ht => ?_)
          rw [hserve, ht, hjoined, hoperand]
          rfl
        | ok operand => cases hdepth : (operand.outerTest request.verb).connect joined with
          | error limit =>
            refine Or.inr (isRefused_of_tables hchecked hread (.limit limit) fun _ _ ht => ?_)
            rw [hserve, ht, hjoined, hoperand]
            dsimp only [Except.bind]
            rw [hdepth]
          | ok depth =>
            refine Or.inl ⟨operand, depth, rfl, ?_⟩
            rw [Sql.statementDepth, hread]
            change (Sql.joinConditions plan read).bind (operand.outerTest request.verb).connect = _
            rw [hjoined]
            exact hdepth

/-- A request for an operand gives what the rows give, unless its statement is refused. -/
theorem aggregate_of_statementDepth {store : Store} {tables : Tables}
    (ht : store.tables = some tables) (hcolumn : Sql.isIdentifier request.column = true)
    {operand : Operand}
    (hoperand : Operand.ofWord request.verb request.column = .ok operand) {depth : Nat}
    (h : Sql.statementDepth plan (operand.outerTest request.verb) = .ok depth) :
    store.aggregate plan request = match tables.select plan (operand.outerTest request.verb) with
      | .error limit => .error (.table (.exceeded limit))
      | .ok rows => answerOf request.verb request.column operand (groupRows rows) := by
  rw [aggregate_of_isIdentifier hcolumn, serve_of_accepted hoperand h, ht]
  cases hrows : tables.select plan (operand.outerTest request.verb) <;> simp only [hrows]

/-- Within the limits, a store gives the rows that a plan retains. -/
theorem select_of_withinLimits {store : Store} {tables : Tables} (ht : store.tables = some tables)
    (h : Sql.WithinLimits plan .nothing) :
    store.select plan = .ok (tables.retained plan) := by
  obtain ⟨depth, hdepth⟩ := h.accepted
  obtain ⟨read, joined, hread, hjoined, -⟩ := Sql.stages_of_statementDepth hdepth
  rw [select, prepare_of_readCondition hread, ht, hjoined]
  change (tables.select plan .nothing).mapError _ = _
  rw [select_of_short h.short]
  rfl

/-- Within the limits, a request for an operand is answered from the grouped relation. -/
theorem aggregate_of_withinLimits {store : Store} {tables : Tables}
    (ht : store.tables = some tables) (hcolumn : Sql.isIdentifier request.column = true)
    {operand : Operand} (hoperand : Operand.ofWord request.verb request.column = .ok operand)
    (h : Sql.WithinLimits plan (operand.outerTest request.verb)) :
    store.aggregate plan request =
      answerOf request.verb request.column operand (tables.grouped plan) := by
  obtain ⟨depth, hdepth⟩ := h.accepted
  rw [aggregate_of_statementDepth ht hcolumn hoperand hdepth, select_of_short h.short]
  rfl

/-- A request over one plan is answered alike from two stores when both come upon long patterns
    alike and its operand is answered alike from their grouped relations. -/
theorem aggregate_congr {first second : Store}
    (h : Option.Rel (fun a b : Tables => ∀ operand,
      Operand.ofWord request.verb request.column = .ok operand →
        a.meetsLongPattern plan (operand.outerTest request.verb) =
          b.meetsLongPattern plan (operand.outerTest request.verb) ∧
        answerOf request.verb request.column operand (a.grouped plan) =
          answerOf request.verb request.column operand (b.grouped plan))
            first.tables second.tables) :
    first.aggregate plan request = second.aggregate plan request := by
  cases hcolumn : Sql.isIdentifier request.column with
  | false => rw [aggregate_of_not_isIdentifier hcolumn, aggregate_of_not_isIdentifier hcolumn]
  | true =>
    rcases accepted_or_refused plan request with ⟨operand, depth, hoperand, hdepth⟩ |
      ⟨cause, -, hserve⟩
    · have hserve := serve_of_accepted hoperand hdepth
      rw [aggregate_of_isIdentifier hcolumn, aggregate_of_isIdentifier hcolumn, hserve, hserve]
      generalize first.tables = a at h ⊢
      generalize second.tables = b at h ⊢
      cases h with
      | none => rfl
      | @some a b h =>
        obtain ⟨hmeets, hanswer⟩ := h operand hoperand
        dsimp only [Tables.select]
        rw [hmeets]
        cases b.meetsLongPattern plan (operand.outerTest request.verb) with
        | true => rfl
        | false => exact hanswer
    · have hmigrated : first.tables.isSome = second.tables.isSome := by
        generalize first.tables = a at h
        generalize second.tables = b at h
        cases h <;> rfl
      rw [aggregate_of_isIdentifier hcolumn, aggregate_of_isIdentifier hcolumn, hserve, hserve,
        hmigrated]

end Store

end CardCensus
