import CardCensus.Import

/-!
# What a store goes through

A store starts new, without tables. It is then migrated, written to, given an export, or closed and
opened again, any number of times and in any order. `Reachable` stores are those that come about in
this way.

Results:
* `write_eq_ok`, `write_eq_error`: a transaction either has the effect of all its operations or
  none.
* `take_eq`: an export is always taken, and leaves what its operations leave of no tables at all.
* `Invariant.of_reachable`: what holds of empty tables and is kept by every operation holds of the
  tables of every reachable store.
-/

namespace CardCensus.Store

/-- Something that happens to a store. -/
inductive Step where
  /-- Its tables are created. -/
  | migrate
  /-- A transaction runs, to its end or to a failure. -/
  | write (operations : List Operation)
  /-- An export takes the place of the corpus. -/
  | take (sets : Export)
  /-- It is closed and opened again. -/
  | reopen

/-- The store after a step. -/
def Step.run (store : Store) : Step → Store
  | migrate => store.migrate
  | write operations => (store.write operations).1
  | take sets => (store.take sets).1
  | reopen => store.reopen

/-- The store after steps, one after the other. -/
def after (store : Store) (steps : List Step) : Store :=
  steps.foldl Step.run store

/-- The store comes about from a new one. -/
def Reachable (store : Store) : Prop :=
  ∃ medium steps, store = after { medium } steps

/-! ## Transactions -/

theorem write_eq_ok {store : Store} {operations : List Operation} {tables : Option Tables}
    (h : runAll store.tables operations = .ok tables) :
    store.write operations = ({ store with tables }, .ok ()) := by
  simp [write, h]

theorem write_eq_error {store : Store} {operations : List Operation} {cause : StoreError}
    (h : runAll store.tables operations = .error cause) :
    store.write operations = (store, .error cause) := by
  simp [write, h]

theorem runAll_cons (tables : Option Tables) (operation : Operation) (rest : List Operation) :
    runAll tables (operation :: rest) = (operation.run tables).bind fun between =>
      runAll between rest := rfl

theorem runAll_cons_some (tables : Tables) (operation : Operation) (rest : List Operation) :
    runAll (some tables) (operation :: rest) =
      (operation.apply tables).bind fun between => runAll (some between) rest := by
  rw [runAll_cons, Operation.run]
  cases operation.apply tables <;> rfl

/-! ## Operations that cannot fail -/

/-- The operation does not give up. -/
def Operation.IsSteady : Operation → Prop
  | refuse _ => False
  | _ => True

/-- The tables after an operation that does not give up. -/
def Operation.effect (tables : Tables) : Operation → Tables
  | clear => tables.clear
  | putSet set => tables.putSet set
  | addPrinting setCode card => tables.addPrinting setCode card
  | rebuildIndex => tables.rebuildIndex
  | refuse _ => tables

theorem apply_eq_ok_iff {tables result : Tables} {operation : Operation} :
    operation.apply tables = .ok result ↔ operation.IsSteady ∧
      result = operation.effect tables := by
  cases operation <;> simp [Operation.apply, Operation.IsSteady, Operation.effect, eq_comm]

/-- On a store with tables a transaction succeeds exactly when none of its operations gives up. -/
theorem runAll_some_eq_ok_iff {tables : Tables} {operations : List Operation}
    {result : Option Tables} :
    runAll (some tables) operations = .ok result ↔
      (∀ operation ∈ operations, operation.IsSteady) ∧
        result = some (operations.foldl Operation.effect tables) := by
  induction operations generalizing tables with
  | nil =>
    show Except.ok (some tables) = .ok result ↔ _
    simp [eq_comm]
  | cons operation rest ih =>
    rw [runAll_cons_some, List.forall_mem_cons, List.foldl_cons]
    cases happly : operation.apply tables with
    | error cause =>
      have hsteady : ¬ operation.IsSteady := fun hs =>
        nomatch happly.symm.trans (apply_eq_ok_iff.mpr ⟨hs, rfl⟩)
      simp [Except.bind, hsteady]
    | ok between =>
      obtain ⟨hs, rfl⟩ := apply_eq_ok_iff.mp happly
      simp only [Except.bind, ih, hs, true_and]

theorem isSteady_of_mem_operations {sets : Export} {operation : Operation}
    (h : operation ∈ sets.operations) : operation.IsSteady := by
  simp only [Export.operations, Export.setOperations, List.cons_append, List.mem_cons,
    List.mem_append,
    List.mem_flatMap, List.mem_map, List.not_mem_nil, or_false] at h
  rcases h with rfl | ⟨set, -, rfl | ⟨card, -, rfl⟩⟩ | rfl <;> exact True.intro

/-- An export begins by emptying the tables, so what they held does not matter. -/
theorem foldl_operations (sets : Export) (tables : Tables) :
    sets.operations.foldl Operation.effect tables = sets.operations.foldl Operation.effect {} := by
  rw [Export.operations, List.cons_append, List.foldl_cons, List.foldl_cons]
  rw [Operation.effect, Operation.effect, Tables.clear_eq, Tables.clear_eq]

/-- An export is always taken. Nothing is left of what the store held before. -/
theorem take_eq (store : Store) (sets : Export) :
    store.take sets =
      ({ store with tables := some (sets.operations.foldl Operation.effect {}) },
        .ok sets.count) := by
  have hrun : runAll store.migrate.tables sets.operations =
      .ok (some (sets.operations.foldl Operation.effect {})) := by
    rw [migrate, runAll_some_eq_ok_iff, foldl_operations sets (store.tables.getD {})]
    exact ⟨fun _ h => isSteady_of_mem_operations h, rfl⟩
  rw [take, write_eq_ok hrun]
  rfl

/-! ## Accounts -/

/-- An account that is kept of the operations: how it starts, and how each operation changes it. -/
structure Account (γ : Type) where
  start : γ
  next : γ → Operation → γ

namespace Account

variable {γ : Type}

/-- The account after a step. A transaction that fails leaves it alone, and it starts again where
    the tables are gone. -/
def step (account : Account γ) (store : Store) (entry : γ) : Step → γ
  | .migrate => entry
  | .write operations => match runAll store.tables operations with
    | .ok _ => operations.foldl account.next entry
    | .error _ => entry
  | .take sets => sets.operations.foldl account.next entry
  | .reopen => match store.medium with
    | .memory => account.start
    | .file => entry

/-- The account after steps, one after the other. -/
def after (account : Account γ) (store : Store) (entry : γ) : List Step → γ
  | [] => entry
  | step :: rest => account.after (step.run store) (account.step store entry step) rest

/-- The account of a new store after steps. -/
def ofSteps (account : Account γ) (medium : Medium) (steps : List Step) : γ :=
  account.after { medium } account.start steps

/-- What the account says of empty tables is so, and stays so with every operation. -/
structure Tells (account : Account γ) (R : γ → Tables → Prop) : Prop where
  empty : R account.start {}
  effect : ∀ {entry : γ} {tables : Tables}, R entry tables → ∀ operation : Operation,
    R (account.next entry operation) (operation.effect tables)

/-- What the account says of a store is so; of a store without tables it says nothing. -/
def Fits (account : Account γ) (R : γ → Tables → Prop) (store : Store) (entry : γ) : Prop :=
  match store.tables with
  | none => entry = account.start
  | some tables => R entry tables

variable {account : Account γ} {R : γ → Tables → Prop}

theorem Tells.foldl (h : account.Tells R) {entry : γ} {tables : Tables} (hentry : R entry tables)
    (operations : List Operation) :
    R (operations.foldl account.next entry) (operations.foldl Operation.effect tables) := by
  induction operations generalizing entry tables with
  | nil => exact hentry
  | cons operation rest ih => exact ih (h.effect hentry operation)

/-- **Step.** An account that fits a store fits it after a step. -/
theorem Tells.step (h : account.Tells R) {store : Store} {entry : γ}
    (hfits : account.Fits R store entry)
    (step : Step) : account.Fits R (step.run store) (account.step store entry step) := by
  have hmigrated : R entry (store.tables.getD {}) := by
    unfold Fits at hfits
    cases hstore : store.tables with
    | none =>
      rw [hstore] at hfits
      rw [show entry = account.start from hfits]
      exact h.empty
    | some tables =>
      rw [hstore] at hfits
      exact hfits
  cases step with
  | migrate => exact hmigrated
  | write operations =>
    simp only [Step.run, Account.step]
    cases hrun : runAll store.tables operations with
    | error cause =>
      rw [write_eq_error hrun]
      exact hfits
    | ok result =>
      rw [write_eq_ok hrun]
      cases hstore : store.tables with
      | none =>
        rw [hstore] at hrun
        cases operations with
        | nil =>
          cases hrun
          rw [Fits, hstore] at hfits
          exact hfits
        | cons operation rest => cases hrun
      | some tables =>
        rw [hstore, runAll_some_eq_ok_iff] at hrun
        obtain ⟨-, rfl⟩ := hrun
        rw [Fits, hstore] at hfits
        exact h.foldl hfits operations
  | take sets =>
    rw [Step.run, take_eq, ← foldl_operations sets (store.tables.getD {})]
    exact h.foldl hmigrated sets.operations
  | reopen =>
    simp only [Step.run, Account.step, reopen]
    cases store.medium with
    | memory => exact rfl
    | file => exact hfits

/-- **Run.** The account of a new store fits it after any steps. -/
theorem Tells.ofSteps (h : account.Tells R) {medium : Medium} {steps : List Step} {tables : Tables}
    (ht : (Store.after { medium } steps).tables = some tables) :
    R (account.ofSteps medium steps) tables := by
  have hafter : ∀ (steps : List Step) (store : Store) (entry : γ), account.Fits R store entry →
      account.Fits R (Store.after store steps) (account.after store entry steps) := by
    intro steps
    induction steps with
    | nil => exact fun _ _ hfits => hfits
    | cons step rest ih => exact fun store entry hfits => ih _ _ (h.step hfits step)
  have hfits := hafter steps { medium } account.start rfl
  rw [Fits, ht] at hfits
  exact hfits

end Account

/-! ## Invariants -/

/-- Empty tables have the property, and every operation keeps it. -/
abbrev Invariant (P : Tables → Prop) : Prop :=
  (Account.mk () fun _ _ => ()).Tells fun _ => P

theorem Invariant.of_reachable {P : Tables → Prop} (h : Invariant P) {store : Store}
    (hr : Reachable store) {tables : Tables} (ht : store.tables = some tables) : P tables := by
  obtain ⟨medium, steps, rfl⟩ := hr
  exact h.ofSteps ht

end CardCensus.Store
