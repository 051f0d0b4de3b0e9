import CardCensus.Store.Write

/-!
# Transactions, statement by statement

An operation is carried out by statements, each of which touches one table. A transaction keeps the
tables that it started from; its statements act on the live ones, and a statement that is refused
leaves standing what those before it have done. Committing keeps the live tables, rolling back puts
those from the start in their place.

Results:
* `apply_eq`: the statements of an operation, one after the other, have its effect.
* `execute_none`: without tables the first statement is refused already.
-/

namespace CardCensus.Store

/-- A statement that changes one table. -/
inductive Statement where
  /-- Takes every row out of the table. -/
  | empty (table : TableName)
  | putSet (set : CardSet)
  | addCard (row : CardRow)
  | addMembership (row : MembershipRow)
  | putColor (row : ColorRow)
  | putIdentity (row : ColorRow)
  | addAxisRow (axis : Axis) (row : AxisRow)
  /-- Enters every card in the word index. -/
  | indexCards
  deriving DecidableEq

namespace Statement

/-- The table that a statement changes. -/
def table : Statement → TableName
  | empty table => table
  | putSet _ => .sets
  | addCard _ => .cards
  | addMembership _ => .setMembership
  | putColor _ => .color
  | putIdentity _ => .colorIdentity
  | addAxisRow axis _ => .axis axis
  | indexCards => .nameIndex

/-- The tables after a statement. -/
def apply (tables : Tables) : Statement → Tables
  | empty table => tables.empty table
  | putSet set => { tables with sets := tables.sets.put CardSet.code set }
  | addCard row => { tables with cards := tables.cards.add row }
  | addMembership row => { tables with memberships := tables.memberships.add row }
  | putColor row => { tables with colors := tables.colors.put ColorRow.id row }
  | putIdentity row => { tables with identities := tables.identities.put ColorRow.id row }
  | addAxisRow .supertype row => { tables with supertypes := tables.supertypes.add row }
  | addAxisRow .type row => { tables with types := tables.types.add row }
  | addAxisRow .rarity row => { tables with rarities := tables.rarities.add row }
  | indexCards =>
    { tables with names := tables.names.addAll (tables.cards.entries.map Tables.nameRow) }

/-- The live tables after statements, up to the first that is refused. -/
def runAll (live : Option Tables) : List Statement → Option Tables × Except StoreError Unit
  | [] => (live, .ok ())
  | statement :: rest => match live with
    | none => (none, .error (.table (.noSuchTable statement.table.name)))
    | some tables => runAll (some (statement.apply tables)) rest

end Statement

namespace Operation

/-- The statements that add the rows of a card on an axis. -/
def axisStatements (axis : Axis) (id : String) (values : List String) : List Statement :=
  (Tables.axisRowsOf id values).map (Statement.addAxisRow axis)

/-- The statements that carry an operation out. -/
def statements : Operation → List Statement
  | clear => TableName.all.map .empty
  | putSet set => [.putSet set]
  | addPrinting setCode card =>
    [.addCard (.ofCard card), .addMembership ⟨setCode, card.id⟩,
      .putColor (.ofMask card.id card.colors),
      .putIdentity (.ofMask card.id card.colorIdentity)] ++
      axisStatements .supertype card.id card.supertypes ++
        axisStatements .type card.id card.types ++
      axisStatements .rarity card.id card.rarities
  | rebuildIndex => [.empty .nameIndex, .indexCards]
  | refuse _ => []

/-- How an operation ends once its statements have run. -/
def ending : Operation → Except StoreError Unit
  | refuse cause => .error cause
  | _ => .ok ()

/-- The live tables after an operation, and what went wrong. -/
def execute (live : Option Tables) (operation : Operation) :
    Option Tables × Except StoreError Unit :=
  match Statement.runAll live operation.statements with
  | (after, .ok ()) => (after, operation.ending)
  | (after, .error cause) => (after, .error cause)

end Operation

/-- A transaction: the tables that it started from, the live ones, and how it stands. -/
structure Transaction where
  before : Option Tables
  live : Option Tables
  standing : Except StoreError Unit := .ok ()

namespace Transaction

/-- The transaction on the given tables, before anything is done. -/
def start (tables : Option Tables) : Transaction := { before := tables, live := tables }

/-- The transaction after one more operation. After a failure nothing is done any more. -/
def perform (transaction : Transaction) (operation : Operation) : Transaction :=
  match transaction.standing with
  | .error _ => transaction
  | .ok () =>
    let (live, standing) := operation.execute transaction.live
    { transaction with live, standing }

/-- The tables that a transaction leaves: it is committed when all went well and rolled back
    otherwise. -/
def finish (transaction : Transaction) : Option Tables :=
  match transaction.standing with
  | .ok () => transaction.live
  | .error _ => transaction.before

end Transaction

/-- The transaction of a list of operations on the tables of a store, before it is finished. -/
def underWay (store : Store) (operations : List Operation) : Transaction :=
  operations.foldl Transaction.perform (.start store.tables)

/-- The store after a transaction, and what went wrong. -/
def transact (store : Store) (operations : List Operation) : Store × Except StoreError Unit :=
  let transaction := store.underWay operations
  ({ store with tables := transaction.finish }, transaction.standing)

theorem foldl_axisStatements (tables : Tables) (axis : Axis) (rows : List AxisRow) :
    (rows.map (Statement.addAxisRow axis)).foldl Statement.apply tables = match axis with
      | .supertype => { tables with supertypes := tables.supertypes.addAll rows }
      | .type => { tables with types := tables.types.addAll rows }
      | .rarity => { tables with rarities := tables.rarities.addAll rows } := by
  induction rows generalizing tables with
  | nil => cases axis <;> rfl
  | cons row rest ih =>
    rw [List.map_cons, List.foldl_cons, ih]
    cases axis <;> rfl

/-- The statements of an operation, one after the other, have its effect, unless it gives up in the
    end. -/
theorem apply_eq (tables : Tables) (operation : Operation) :
    operation.apply tables =
      operation.ending.map fun () => operation.statements.foldl Statement.apply tables := by
  cases operation with
  | clear | putSet | rebuildIndex | refuse => rfl
  | addPrinting setCode card =>
    simp only [Operation.statements, Operation.axisStatements, List.foldl_append,
      foldl_axisStatements]
    rfl

theorem runAll_some (tables : Tables) (statements : List Statement) :
    Statement.runAll (some tables) statements =
      (some (statements.foldl Statement.apply tables), .ok ()) := by
  induction statements generalizing tables with
  | nil => rfl
  | cons statement rest ih =>
    rw [Statement.runAll, ih]
    rfl

theorem execute_none (operation : Operation) :
    operation.execute none = (none, .error operation.causeWithoutTables) := by
  cases operation <;> rfl

theorem execute_some (tables : Tables) (operation : Operation) : operation.execute (some tables) =
    (some (operation.statements.foldl Statement.apply tables), operation.ending) := by
  rw [Operation.execute, runAll_some]

end CardCensus.Store
