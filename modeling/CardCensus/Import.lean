import CardCensus.Export
import CardCensus.Store.Write

/-!
# Taking an export into the store

An export replaces the whole corpus, in one transaction: first everything goes, then the sets come
in order, each followed by its printings, and last the word index is drawn up. Promotional sets are
skipped.

Results:
* `sets_add_skipped`: every entry of an export is either taken or skipped.
-/

namespace CardCensus

open CardCensus.Export (ExportedSet)

/-- How much of an export was taken. -/
structure ImportCount where
  sets : Nat := 0
  skipped : Nat := 0
  printings : Nat := 0
  deriving Repr, DecidableEq, Inhabited

/-- Why an export is not taken. -/
inductive ImportError where
  /-- The document cannot be got hold of. -/
  | unreadable (reason : String)
  /-- The document is no export. -/
  | invalid (fault : Json.Fault) (document : String)
  /-- The store refuses it. -/
  | store (cause : StoreError)

/-- The wording of an error. -/
def ImportError.message : ImportError → String
  | .unreadable reason => "cannot read card export: " ++ reason
  | .invalid fault document => "invalid card export: " ++ fault.message document
  | .store cause => "store error during ingestion: " ++ cause.message

namespace Export

/-- The sets that are taken into the corpus, in order. -/
def taken (sets : Export) : List ExportedSet :=
  (sets.map (·.2)).filter fun set => !set.isPromotional

/-- How much of an export is taken. -/
def count (sets : Export) : ImportCount where
  sets := sets.taken.length
  skipped := ((sets.map (·.2)).filter ExportedSet.isPromotional).length
  printings := (sets.taken.flatMap fun set => set.cards).length

/-- The operations that put a set and its printings into the store. -/
def setOperations (set : ExportedSet) : List Store.Operation :=
  .putSet set.toCardSet :: set.toCards.map (.addPrinting set.code)

/-- The transaction that puts an export in the place of the corpus. -/
def operations (sets : Export) : List Store.Operation :=
  .clear :: sets.taken.flatMap setOperations ++ [.rebuildIndex]

theorem sets_add_skipped (sets : Export) : sets.count.sets + sets.count.skipped = sets.length := by
  simp only [count, taken]
  induction sets with
  | nil => rfl
  | cons entry rest ih =>
    cases h : entry.2.isPromotional <;> simp [h] at ih ⊢ <;> omega

end Export

/-- The store with an export in the place of its corpus, and how much was taken (`import`). -/
def Store.take (store : Store) (sets : Export) : Store × Except ImportError ImportCount :=
  match store.migrate.write sets.operations with
  | (after, .ok ()) => (after, .ok sets.count)
  | (after, .error cause) => (after, .error (.store cause))

/-- The export that a document holds (`parse_sets`). -/
def Export.read (document : String) : Except ImportError Export :=
  match ofText document with
  | .ok sets => .ok sets
  | .error fault => .error (.invalid fault document)

end CardCensus
