import CardCensus.Store.Tables
import CardCensus.StoreError

/-!
# Writing to the store

A transaction is a list of operations. It takes effect as a whole, or not at all when an operation
is refused. A store without tables refuses every operation that touches one.

Results:
* `write_error`: a transaction that fails leaves the store as it was.
* `migrate_migrate`: creating the tables twice is creating them once.
-/

namespace CardCensus

/-- Where a store keeps its tables. -/
inductive Store.Medium where
  /-- They are gone when the store is closed. -/
  | memory
  /-- They outlast the store's closing. -/
  | file
  deriving Repr, DecidableEq, Inhabited

/-- A store; before its first migration it has no tables. -/
structure Store where
  medium : Store.Medium := .memory
  tables : Option Store.Tables := none
  deriving DecidableEq, Inhabited

namespace Store

/-- One operation of a transaction. -/
inductive Operation where
  /-- Takes every row out of every table. -/
  | clear
  /-- Records a set, in place of one with the same code. -/
  | putSet (set : CardSet)
  /-- Adds a printing under the code of its set. -/
  | addPrinting (setCode : String) (card : Card)
  /-- Draws the word index up again from the cards. -/
  | rebuildIndex
  /-- Gives up. -/
  | refuse (cause : StoreError)
  deriving DecidableEq

namespace Tables

/-- The rows that give a card its values on an axis (`insert_memberships`). -/
def axisRowsOf (id : String) (values : List String) : List AxisRow :=
  values.map fun value => ⟨id, value⟩

/-- The tables with a set recorded (`insert_set`). -/
def putSet (tables : Tables) (set : CardSet) : Tables :=
  { tables with sets := tables.sets.put CardSet.code set }

/-- The tables with a printing added (`insert_printing`). -/
def addPrinting (tables : Tables) (setCode : String) (card : Card) : Tables where
  sets := tables.sets
  cards := tables.cards.add (.ofCard card)
  memberships := tables.memberships.add ⟨setCode, card.id⟩
  colors := tables.colors.put ColorRow.id (.ofMask card.id card.colors)
  identities := tables.identities.put ColorRow.id (.ofMask card.id card.colorIdentity)
  supertypes := tables.supertypes.addAll (axisRowsOf card.id card.supertypes)
  types := tables.types.addAll (axisRowsOf card.id card.types)
  rarities := tables.rarities.addAll (axisRowsOf card.id card.rarities)
  names := tables.names

/-- The entry of a card in the word index. -/
def nameRow (card : CardRow) : NameRow :=
  ⟨card.id, card.name⟩

/-- The tables with the word index drawn up again, from nothing (`rebuild_name_index`). -/
def rebuildIndex (tables : Tables) : Tables :=
  { tables with names := .ofEntries (tables.cards.entries.map nameRow) }

end Tables

/-- Why an operation fails where there are no tables: the first one that it touches is missing. -/
def Operation.causeWithoutTables : Operation → StoreError
  | clear | putSet _ => .table (.noSuchTable TableName.sets.name)
  | addPrinting _ _ => .table (.noSuchTable TableName.cards.name)
  | rebuildIndex => .table (.noSuchTable TableName.nameIndex.name)
  | refuse cause => cause

/-- The tables after an operation. -/
def Operation.apply (tables : Tables) : Operation → Except StoreError Tables
  | clear => .ok tables.clear
  | putSet set => .ok (tables.putSet set)
  | addPrinting setCode card => .ok (tables.addPrinting setCode card)
  | rebuildIndex => .ok tables.rebuildIndex
  | refuse cause => .error cause

/-- The tables, if there are any, after an operation. -/
def Operation.run (tables : Option Tables) (operation : Operation) :
    Except StoreError (Option Tables) :=
  match tables with
  | some tables => (operation.apply tables).map some
  | none => .error operation.causeWithoutTables

/-- The tables after a list of operations. -/
def runAll (tables : Option Tables) (operations : List Operation) :
    Except StoreError (Option Tables) :=
  operations.foldlM Operation.run tables

/-- The store after a transaction, and what went wrong (`SqliteStore.write`). -/
def write (store : Store) (operations : List Operation) : Store × Except StoreError Unit :=
  match runAll store.tables operations with
  | .ok tables => ({ store with tables }, .ok ())
  | .error cause => (store, .error cause)

/-- The store with its tables created, those that are there kept (`SqliteStore.migrate`). -/
def migrate (store : Store) : Store :=
  { store with tables := some (store.tables.getD {}) }

/-- The store after closing and opening. -/
def reopen (store : Store) : Store :=
  match store.medium with
  | .memory => { store with tables := none }
  | .file => store

theorem write_error {store : Store} {operations : List Operation} {cause : StoreError}
    (h : (store.write operations).2 = .error cause) : (store.write operations).1 = store := by
  unfold write at h ⊢
  split at h
  · simp at h
  · rfl

theorem migrate_migrate (store : Store) : store.migrate.migrate = store.migrate := by
  simp [migrate]

end Store

end CardCensus
