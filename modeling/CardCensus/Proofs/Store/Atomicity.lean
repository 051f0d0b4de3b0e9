import CardCensus.Answer
import CardCensus.Proofs.Store.History
import CardCensus.Store.Listing
import CardCensus.Store.Transaction

/-!
# All or nothing

A transaction may have emptied, replaced and added any rows before it fails. It is rolled back to
the tables that it started from, row numbers included, so nothing that is done with the store later
can tell that it was tried. One that succeeds leaves what its operations make of the tables one
after the other.

Results:
* `write_eq_transact`: a list of operations is written statement by statement, in one transaction.
* `write_eq_error_iff`: when a transaction fails.
* `replies_failed_write`: what comes behind a failed transaction is answered as if it had never been
  tried.
* `write_all_or_nothing`: all of it.
-/

namespace CardCensus.Store

/-! ## Statement by statement -/

theorem foldl_perform_of_error {transaction : Transaction} {cause : StoreError}
    (h : transaction.standing = .error cause) (operations : List Operation) :
    operations.foldl Transaction.perform transaction = transaction := by
  induction operations with
  | nil => rfl
  | cons operation rest ih =>
    have hperform : transaction.perform operation = transaction := by rw [Transaction.perform, h]
    rw [List.foldl_cons, hperform, ih]

/-- **Step.** An operation that succeeds carries the live tables on. -/
theorem perform_of_ok {before live after : Option Tables} {operation : Operation}
    (h : operation.run live = .ok after) :
    Transaction.perform { before, live } operation = { before, live := after } := by
  cases live with
  | none => cases h
  | some tables =>
    rw [Operation.run, apply_eq] at h
    rw [Transaction.perform, execute_some]
    cases hending : operation.ending with
    | error cause =>
      rw [hending] at h
      cases h
    | ok =>
      rw [hending] at h
      cases h
      rfl

/-- **Step.** An operation that fails leaves the transaction failed. -/
theorem standing_perform_of_error {before live : Option Tables} {operation : Operation}
    {cause : StoreError}
    (h : operation.run live = .error cause) :
    (Transaction.perform { before, live } operation).standing = .error cause := by
  cases live with
  | none =>
    cases h
    rw [Transaction.perform, execute_none]
  | some tables =>
    rw [Operation.run, apply_eq] at h
    rw [Transaction.perform, execute_some]
    cases hending : operation.ending with
    | error cause =>
      rw [hending] at h
      cases h
      rfl
    | ok =>
      rw [hending] at h
      cases h

theorem before_foldl_perform (transaction : Transaction) (operations : List Operation) :
    (operations.foldl Transaction.perform transaction).before = transaction.before := by
  induction operations generalizing transaction with
  | nil => rfl
  | cons operation rest ih =>
    rw [List.foldl_cons, ih, Transaction.perform]
    split <;> rfl

/-- **Run.** Operations that all succeed carry the live tables on. -/
theorem foldl_perform_of_ok {before live after : Option Tables} {operations : List Operation}
    (h : runAll live operations = .ok after) :
    operations.foldl Transaction.perform { before, live } = { before, live := after } := by
  induction operations generalizing live with
  | nil =>
    cases h
    rfl
  | cons operation rest ih =>
    rw [runAll_cons] at h
    cases hfirst : operation.run live with
    | ok between =>
      rw [hfirst] at h
      rw [List.foldl_cons, perform_of_ok hfirst, ih h]
    | error cause =>
      rw [hfirst] at h
      cases h

/-- **Run.** One that fails leaves the transaction failed, whatever comes behind it. -/
theorem standing_foldl_perform_of_error {before live : Option Tables} {operations : List Operation}
    {cause : StoreError} (h : runAll live operations = .error cause) :
    (operations.foldl Transaction.perform { before, live }).standing = .error cause := by
  induction operations generalizing live with
  | nil => cases h
  | cons operation rest ih =>
    rw [runAll_cons] at h
    rw [List.foldl_cons]
    cases hfirst : operation.run live with
    | ok between =>
      rw [hfirst] at h
      rw [perform_of_ok hfirst, ih h]
    | error first =>
      rw [hfirst] at h
      cases h
      have hstanding : (Transaction.perform { before, live } operation).standing = .error cause :=
        standing_perform_of_error hfirst
      rw [foldl_perform_of_error hstanding, hstanding]

/-- A list of operations is written statement by statement, in one transaction. -/
theorem write_eq_transact (store : Store) (operations : List Operation) :
    store.write operations = store.transact operations := by
  rw [write, transact, underWay, Transaction.start]
  cases hrun : runAll store.tables operations with
  | ok after =>
    rw [foldl_perform_of_ok hrun]
    rfl
  | error cause =>
    have hstanding :
        (operations.foldl Transaction.perform
          { before := store.tables, live := store.tables }).standing =
        .error cause := standing_foldl_perform_of_error hrun
    rw [Transaction.finish, hstanding, before_foldl_perform]

/-! ## When a transaction fails -/

theorem forall_isSteady_iff {operations : List Operation} :
    (∀ operation ∈ operations, operation.IsSteady) ↔ ¬ ∃ cause, .refuse cause ∈ operations := by
  constructor
  · rintro h ⟨cause, hmem⟩
    exact h _ hmem
  · intro h operation hmem
    cases operation with
    | refuse cause => exact h ⟨cause, hmem⟩
    | clear | putSet | addPrinting | rebuildIndex => exact True.intro

theorem runAll_none (operations : List Operation) : runAll none operations = match operations with
    | [] => .ok none
    | operation :: _ => .error operation.causeWithoutTables := by
  cases operations <;> rfl

/-- A transaction fails when there are no tables for its operations, or when one of them
    gives up. -/
theorem exists_runAll_eq_error_iff {tables : Option Tables} {operations : List Operation} :
    (∃ cause, runAll tables operations = .error cause) ↔
      (tables = none ∧ operations ≠ []) ∨ ∃ cause, .refuse cause ∈ operations := by
  cases tables with
  | none => cases operations <;> simp [runAll_none]
  | some tables =>
    have hok : (∃ result, runAll (some tables) operations = .ok result) ↔
        ¬ ∃ cause, .refuse cause ∈ operations := by
      simp only [runAll_some_eq_ok_iff, ← forall_isSteady_iff, exists_and_left, exists_eq, and_true]
    cases hrun : runAll (some tables) operations with
    | ok result =>
      have hnone := hok.mp ⟨result, hrun⟩
      exact iff_of_false (fun ⟨_, h⟩ => nomatch h) (fun h => h.elim (fun h => nomatch h.1) hnone)
    | error cause =>
      have hsome : ∃ cause, .refuse cause ∈ operations := by
        refine Classical.byContradiction fun hnone => ?_
        obtain ⟨result, hresult⟩ := hok.mpr hnone
        exact nomatch hrun.symm.trans hresult
      exact iff_of_true ⟨cause, rfl⟩ (Or.inr hsome)

/-- The operation at which a transaction fails, and what those before it have made of the live
    tables. -/
theorem exists_failing {live : Option Tables} {operations : List Operation} {cause : StoreError}
    (h : runAll live operations = .error cause) :
    ∃ done failing rest reached, operations = done ++ failing :: rest ∧
      runAll live done = .ok reached ∧
      failing.run reached = .error cause := by
  induction operations generalizing live with
  | nil => cases h
  | cons operation rest ih =>
    rw [runAll_cons] at h
    cases hfirst : operation.run live with
    | error first =>
      rw [hfirst] at h
      cases h
      exact ⟨[], operation, rest, live, rfl, rfl, hfirst⟩
    | ok between =>
      rw [hfirst] at h
      obtain ⟨done, failing, rest, reached, rfl, hdone, hfailing⟩ := ih h
      refine ⟨operation :: done, failing, rest, reached, rfl, ?_, hfailing⟩
      rw [runAll_cons, hfirst]
      exact hdone

/-! ## One operation after the other -/

/-- The store after operations, each in a transaction of its own. -/
def writeEach (store : Store) (operations : List Operation) : Store :=
  operations.foldl (fun between operation => (between.write [operation]).1) store

theorem writeEach_eq {store : Store} {operations : List Operation} {tables : Option Tables}
    (h : runAll store.tables operations = .ok tables) :
    store.writeEach operations = { store with tables } := by
  induction operations generalizing store with
  | nil =>
    cases h
    rfl
  | cons operation rest ih =>
    rw [runAll_cons] at h
    cases hfirst : operation.run store.tables with
    | error cause =>
      rw [hfirst] at h
      cases h
    | ok between =>
      rw [hfirst] at h
      have hone : runAll store.tables [operation] = .ok between := by
        rw [runAll_cons, hfirst]
        rfl
      have hrest : (writeEach { store with tables := between } rest) = { store with tables } := ih h
      rw [writeEach, List.foldl_cons, write_eq_ok hone]
      exact hrest

theorem eq_map_foldl_of_runAll {tables result : Option Tables} {operations : List Operation}
    (h : runAll tables operations = .ok result) :
    result = tables.map (operations.foldl Operation.effect) := by
  cases tables with
  | some tables => exact (runAll_some_eq_ok_iff.mp h).2
  | none =>
    cases operations with
    | nil =>
      cases h
      rfl
    | cons operation rest => cases h

/-! ## What is done with a store -/

/-- Something that is done with a store: it is changed, or it is asked something. -/
inductive Event where
  | step (step : Step)
  | aggregate (plan : Plan) (request : Request)
  | matching (plan : Plan)
  | lookup (search : CardSearch)
  | list (listing : Listing)
  | respond (settings : AnswerSettings) (message : String)

/-- What comes back. -/
inductive Reply where
  | done
  | written (result : Except StoreError Unit)
  | taken (result : Except ImportError ImportCount)
  | aggregated (result : Except StoreError Aggregate)
  | found (result : Except StoreError (Option FoundCard))
  | rows (result : Except StoreError (List (List Value)))
  | answer (text : Option String)

namespace Event

/-- What comes back from a store. -/
def reply (store : Store) : Event → Reply
  | step .migrate | step .reopen => .done
  | step (.write operations) => .written (store.write operations).2
  | step (.take sets) => .taken (store.take sets).2
  | aggregate plan request => .aggregated (store.aggregate plan request)
  | matching plan => .rows (store.matching plan)
  | lookup search => .found (store.lookup search)
  | list listing => .rows (store.list listing)
  | respond settings message => .answer (Answer.respond store settings message)

/-- The store that is left; asking leaves it as it was. -/
def run (store : Store) : Event → Store
  | step change => change.run store
  | _ => store

end Event

/-- What comes back from a store, one thing after the other. -/
def replies (store : Store) : List Event → List Reply
  | [] => []
  | event :: rest => event.reply store :: (event.run store).replies rest

/-- What comes behind a failed transaction is answered as if it had never been tried. -/
theorem replies_failed_write {store : Store} {operations : List Operation} {cause : StoreError}
    (h : (store.write operations).2 = .error cause) (later : List Event) :
    store.replies (.step (.write operations) :: later) =
      .written (.error cause) :: store.replies later := by
  rw [replies, Event.reply, Event.run, Step.run, h, write_error h]

/-! ## Main theorem -/

theorem write_snd_eq (store : Store) (operations : List Operation) :
    (store.write operations).2 = (runAll store.tables operations).map fun _ => () := by
  rw [write]
  cases runAll store.tables operations <;> rfl

/-- **Main theorem.** A list of operations is written by statements that change the live tables, in
    one transaction. It fails exactly when there are no tables or an operation gives up. However far
    the statements had come by then, the store is as it was, and what is done with it later is
    answered as if nothing had been tried. If it succeeds, the tables are those that the operations
    make one after the other, just as if each had been written by itself. -/
theorem write_all_or_nothing (store : Store) (operations : List Operation) :
    store.write operations = store.transact operations ∧
      ((∃ cause, (store.write operations).2 = .error cause) ↔
        (store.tables = none ∧ operations ≠ []) ∨ ∃ cause, .refuse cause ∈ operations) ∧
      (∀ cause, (store.write operations).2 = .error cause →
        (∃ done failing rest, operations = done ++ failing :: rest ∧ (store.write done).2 = .ok () ∧
          (store.underWay done).live = store.tables.map (done.foldl Operation.effect) ∧
          failing.run (store.underWay done).live = .error cause) ∧
        (store.write operations).1 = store ∧
        ∀ later, store.replies (.step (.write operations) :: later) =
          .written (.error cause) :: store.replies later) ∧
      ((store.write operations).2 = .ok () →
        (store.write operations).1 =
            { store with tables := store.tables.map (operations.foldl Operation.effect) } ∧
          (store.write operations).1 = store.writeEach operations) := by
  refine ⟨write_eq_transact store operations, ?_, ?_, ?_⟩
  · rw [← exists_runAll_eq_error_iff, write_snd_eq]
    cases runAll store.tables operations <;> simp [Except.map]
  · intro cause hcause
    refine ⟨?_, write_error hcause, replies_failed_write hcause⟩
    have hrun : runAll store.tables operations = .error cause := by
      rw [write_snd_eq] at hcause
      cases hrun : runAll store.tables operations with
      | ok tables =>
        rw [hrun] at hcause
        cases hcause
      | error other =>
        rw [hrun] at hcause
        cases hcause
        rfl
    obtain ⟨done, failing, rest, reached, hoperations, hdone, hfailing⟩ := exists_failing hrun
    have hlive : (store.underWay done).live = reached := by
      rw [underWay, Transaction.start, foldl_perform_of_ok hdone]
    refine ⟨done, failing, rest, hoperations, ?_, ?_, ?_⟩
    · rw [write_eq_ok hdone]
    · rw [hlive, eq_map_foldl_of_runAll hdone]
    · rw [hlive, hfailing]
  · intro hok
    cases hrun : runAll store.tables operations with
    | error cause =>
      rw [write_eq_error hrun] at hok
      cases hok
    | ok tables =>
      rw [write_eq_ok hrun, writeEach_eq hrun, ← eq_map_foldl_of_runAll hrun]
      exact ⟨rfl, rfl⟩

/-- A store with one card. -/
def oneCard : Store :=
  after {} [.migrate, .write [.addPrinting "A" { id := "1", name := "Ember", multiverseId := 10 }]]

/-- By the time this gives up the card is gone. -/
def halfway : List Operation :=
  [.clear, .putSet { code := "B", name := "Second" }, .refuse (.invalidColumn "c"), .rebuildIndex]

theorem write_all_or_nothing_halfway :
    (oneCard.write halfway).2 = .error (.invalidColumn "c") ∧
      (oneCard.underWay halfway).live.map (fun tables => tables.cards.entries.length) = some 0 ∧
      (oneCard.write halfway).1.tables.map (fun tables => tables.cards.entries.length) =
        some 1 := by
  obtain ⟨-, -, hfailed, -⟩ := write_all_or_nothing oneCard halfway
  refine ⟨rfl, rfl, ?_⟩
  rw [(hfailed _ rfl).2.1]
  rfl

end CardCensus.Store
