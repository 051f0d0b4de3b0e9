import CardCensus.Proofs.Store.Grouping
import CardCensus.Store.Aggregate

/-!
# What comes of a request

A request fails over its column, over the tables, over a limit of theirs, or over the cells that it
is asked of; else it has a value that is no text, or shows a row of the grouped relation. So an
answer has no names in it but the column that was asked for, the names of stored cards, and a few
that are always the same.

Results:
* `sumOf_cases`, `answerOf_cases`, `serve_cases`, `aggregate_cases`: what can come of a request.
* `quoted_of_aggregate`: the names that an error quotes.
* `shown_of_aggregate`: what an answer shows.
-/

namespace CardCensus

/-- The name that a refusal by the tables quotes. -/
def TableError.quoted? : TableError → Option String
  | noSuchTable name | noSuchColumn name | syntaxErrorNear name | wrongArgumentCount name =>
    some name
  | distinctWithoutArgument | integerOverflow | unterminatedString | exceeded _ => none

/-- The name that an error quotes. -/
def StoreError.quoted? : StoreError → Option String
  | table cause => cause.quoted?
  | invalidColumn column | typeMismatch column => some column
  | deadlineExceeded _ => none

namespace Store

/-- The names that errors quote whatever the column of a request is. -/
def fixedNames : List String :=
  [")", ",", "sum", "avg", Plan.base.table]

/-- A refused column is quoted, if any name is that is not fixed. -/
theorem quoted_of_ofWord {verb : Verb} {word name : String} {cause : TableError}
    (h : Operand.ofWord verb word = .error cause) (hname : name ∈ cause.quoted?) :
    name = word ∨ name ∈ fixedNames := by
  unfold Operand.ofWord at h
  split at h
  · rename_i role _
    cases role <;> cases verb <;> cases h <;>
      simp_all [TableError.quoted?, fixedNames, followingToken, Verb.function]
  · unfold Operand.ofName at h
    split at h
    · cases h
    · split at h <;> cases h
      exact Or.inl (Option.some.inj hname).symm

theorem realAnswer_ne_text (x : Float) (s : String) : realAnswer x ≠ .text s := by
  unfold realAnswer
  split <;> exact nofun

/-- A total is no text, or it leaves the 64 bits. -/
theorem sumOf_cases (cells : List Value) :
    (∃ total, sumOf cells = .ok total ∧ ∀ s, total ≠ .text s) ∨
      sumOf cells = .error .integerOverflow := by
  unfold sumOf
  dsimp only
  split
  · exact Or.inl ⟨_, rfl, fun _ => nofun⟩
  · split
    · exact Or.inl ⟨_, rfl, fun _ => nofun⟩
    · exact Or.inl ⟨_, rfl, realAnswer_ne_text _⟩
    · exact Or.inr rfl

theorem averageOf_ne_text (cells : List Value) (s : String) : averageOf cells ≠ .text s := by
  unfold averageOf
  dsimp only
  split
  · exact nofun
  · exact realAnswer_ne_text _ s

/-- What comes of a request over the rows of the grouped relation: a sum that leaves the 64 bits, a
    column that is refused, a value that is no text, or a row. -/
theorem answerOf_cases (verb : Verb) (column : String) (operand : Operand)
    (rows : List GroupedRow) :
    answerOf verb column operand rows = .error (.table .integerOverflow) ∨
    answerOf verb column operand rows = .error (.typeMismatch column) ∨
    (∃ value, answerOf verb column operand rows = .ok ⟨value, none⟩ ∧ ∀ s, value ≠ .text s) ∨
    ∃ row ∈ rows, answerOf verb column operand rows =
      .ok (Ranked.mk (operand.value row) row).answer := by
  cases verb with
  | count => exact Or.inr (Or.inr (Or.inl ⟨_, rfl, fun _ => nofun⟩))
  | sum =>
    unfold answerOf
    dsimp only
    rcases sumOf_cases (rows.map fun row => operand.value row) with ⟨total, hsum, htotal⟩ | hsum <;>
      rw [hsum]
    · dsimp only
      split
      · exact Or.inr (Or.inl rfl)
      · exact Or.inr (Or.inr (Or.inl ⟨total, rfl, htotal⟩))
    · exact Or.inl rfl
  | average =>
    unfold answerOf
    dsimp only
    split
    · exact Or.inr (Or.inl rfl)
    · exact Or.inr (Or.inr (Or.inl ⟨_, rfl, averageOf_ne_text _⟩))
  | minimum | maximum =>
    unfold answerOf
    dsimp only
    split
    · exact Or.inr (Or.inr (Or.inl ⟨_, rfl, fun _ => nofun⟩))
    · rename_i found hfound
      obtain ⟨row, hrow, rfl⟩ := List.mem_map.mp (List.mem_filter.mp (mem_of_least? hfound)).1
      exact Or.inr (Or.inr (Or.inr ⟨row, hrow, rfl⟩))

/-- What comes of the statement of a request: it is refused, or it gives the grouped relation. -/
theorem serve_cases (store : Store) (plan : Plan) (request : Request) :
    (∃ cause, Refusal request cause ∧ store.serve plan request = .error cause) ∨
    ∃ tables ∈ store.tables, ∃ operand,
      store.serve plan request = .ok (operand, tables.grouped plan) := by
  rcases accepted_or_refused plan request with ⟨operand, depth, hoperand, hdepth⟩ |
    ⟨cause, hrefusal, hserve⟩
  · rw [serve_of_accepted hoperand hdepth]
    cases htables : store.tables with
    | none => exact Or.inl ⟨_, .noTable, rfl⟩
    | some tables =>
      dsimp only [Tables.select]
      cases tables.meetsLongPattern plan (operand.outerTest request.verb) with
      | true => exact Or.inl ⟨_, .limit .pattern, rfl⟩
      | false => exact Or.inr ⟨tables, rfl, operand, rfl⟩
  · exact Or.inl ⟨_, hrefusal _, hserve store⟩

/-- What comes of a request: its column is no column name, its statement is refused, or it is
    answered over the rows of the grouped relation. -/
theorem aggregate_cases (store : Store) (plan : Plan) (request : Request) :
    store.aggregate plan request = .error (.invalidColumn request.column) ∨
    (∃ cause, Refusal request cause ∧ store.aggregate plan request = .error (.table cause)) ∨
    ∃ tables ∈ store.tables, ∃ operand,
      store.aggregate plan request =
        answerOf request.verb request.column operand (tables.grouped plan) := by
  cases hcolumn : Sql.isIdentifier request.column with
  | false => exact Or.inl (aggregate_of_not_isIdentifier hcolumn)
  | true =>
    rw [aggregate_of_isIdentifier hcolumn]
    rcases serve_cases store plan request with ⟨cause, hrefusal, hserve⟩ |
      ⟨tables, htables, operand, hserve⟩ <;> rw [hserve]
    · exact Or.inr (Or.inl ⟨cause, hrefusal, rfl⟩)
    · exact Or.inr (Or.inr ⟨tables, htables, operand, rfl⟩)

variable {store : Store} {plan : Plan} {request : Request}

/-- The column of a request is quoted when it fails, if any name is that is not fixed. -/
theorem quoted_of_aggregate {cause : StoreError} {name : String}
    (h : store.aggregate plan request = .error cause)
    (hname : name ∈ cause.quoted?) : name = request.column ∨ name ∈ fixedNames := by
  have hcause : ∀ other, store.aggregate plan request = .error other → name ∈ other.quoted? := by
    intro other hother
    obtain rfl := Except.error.inj (h.symm.trans hother)
    exact hname
  rcases aggregate_cases store plan request with hinvalid | ⟨refusal, hrefusal, htable⟩ |
    ⟨tables, -, operand, hanswer⟩
  · exact Or.inl (Option.some.inj (hcause _ hinvalid)).symm
  · cases hrefusal with
    | column hoperand => exact quoted_of_ofWord hoperand (hcause _ htable)
    | noTable =>
      obtain rfl := Option.some.inj (hcause _ htable)
      exact Or.inr (by decide +kernel)
    | limit limit => cases hcause _ htable
  · rw [hanswer] at h hcause
    rcases answerOf_cases request.verb request.column operand
      (tables.grouped plan) with hfail | hfail |
      ⟨value, hok, -⟩ | ⟨row, -, hok⟩
    · cases hcause _ hfail
    · exact Or.inl (Option.some.inj (hcause _ hfail)).symm
    · cases h.symm.trans hok
    · cases h.symm.trans hok

/-- An answer shows a stored card by its name, or a cell that is no text. -/
theorem shown_of_aggregate {aggregate : Aggregate}
    (h : store.aggregate plan request = .ok aggregate) :
    (∀ card ∈ aggregate.card, ∃ tables ∈ store.tables, ∃ row ∈ tables.cards.entries,
      card.name = row.name) ∧
      (aggregate.card = none → ∀ s, aggregate.value ≠ .text s) := by
  rcases aggregate_cases store plan request with hfail | ⟨cause, -, hfail⟩ |
    ⟨tables, htables, operand, hanswer⟩
  · cases h.symm.trans hfail
  · cases h.symm.trans hfail
  · rw [hanswer] at h
    rcases answerOf_cases request.verb request.column operand
      (tables.grouped plan) with hfail | hfail |
      ⟨value, hok, hvalue⟩ | ⟨row, hrow, hok⟩
    · cases h.symm.trans hfail
    · cases h.symm.trans hfail
    · obtain rfl := Except.ok.inj (h.symm.trans hok)
      exact ⟨nofun, fun _ => hvalue⟩
    · obtain rfl := Except.ok.inj (h.symm.trans hok)
      refine ⟨?_, nofun⟩
      rintro card hcard
      obtain rfl := Option.some.inj hcard
      exact ⟨tables, htables, row.card,
        Table.mem_entries_iff.mpr ⟨_, (mem_grouped_iff.mp hrow).stored⟩, rfl⟩

end Store

end CardCensus
