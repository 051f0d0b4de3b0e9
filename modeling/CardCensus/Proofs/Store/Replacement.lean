import CardCensus.Answer
import CardCensus.Proofs.Store.History
import CardCensus.Store.Listing

/-!
# An export takes the place of everything

Whatever two stores held, and whether they had tables at all, they hold the same once they have been
given the same export: every row of every table, and its row number. Two things carry this. Each
table is emptied before anything is written (`Tables.clear_eq`), and an empty table numbers its rows
from one again (`Table.rows_ofEntries`).

Results:
* `answersAlike_of_tables_eq`: nothing that is asked of a store looks past its tables.
* `take_forgets`: after an export, what a store held before can no longer be told.
-/

namespace CardCensus.Store

/-- Whatever is asked of the stores, they answer the same. -/
structure AnswersAlike (first second : Store) : Prop where
  aggregate : ∀ plan request, first.aggregate plan request = second.aggregate plan request
  matching : ∀ plan, first.matching plan = second.matching plan
  lookup : ∀ search, first.lookup search = second.lookup search
  list : ∀ listing, first.list listing = second.list listing
  respond : ∀ settings message, Answer.respond first settings message =
    Answer.respond second settings message

theorem aggregate_eq_of_tables_eq {first second : Store} (h : first.tables = second.tables)
    (plan : Plan)
    (request : Request) : first.aggregate plan request = second.aggregate plan request := by
  rw [aggregate, aggregate, serve, serve, prepare, prepare, h]

theorem lookup_eq_of_tables_eq {first second : Store} (h : first.tables = second.tables)
    (search : CardSearch) : first.lookup search = second.lookup search := by
  rw [lookup, lookup, h]

theorem answers_eq_of_tables_eq {first second : Store} (h : first.tables = second.tables)
    (settings : AnswerSettings) (parsed : Match) :
    Answer.answers first settings parsed = Answer.answers second settings parsed := by
  unfold Answer.answers Answer.execute
  simp only [aggregate_eq_of_tables_eq h]

theorem respond_eq_of_tables_eq {first second : Store} (h : first.tables = second.tables)
    (settings : AnswerSettings) (message : String) :
    Answer.respond first settings message = Answer.respond second settings message := by
  have hstats : Answer.stats first settings = Answer.stats second settings := by
    funext interior
    simp only [Answer.stats, answers_eq_of_tables_eq h]
  have hlookup : Answer.lookup first = Answer.lookup second := by
    funext interior
    simp only [Answer.lookup, lookup_eq_of_tables_eq h]
  simp only [Answer.respond, Answer.lines, hstats, hlookup]

theorem answersAlike_of_tables_eq {first second : Store} (h : first.tables = second.tables) :
    AnswersAlike first second where
  aggregate := aggregate_eq_of_tables_eq h
  matching plan := by rw [matching, matching, select, select, prepare, prepare, h]
  lookup := lookup_eq_of_tables_eq h
  list listing := by rw [list, list, h]
  respond := respond_eq_of_tables_eq h

/-- **Two runs.** Give any two stores the same export: it is taken by both and counted alike, the
    tables of both are the same to the row number, and nothing but the medium tells the stores
    apart. Giving the export again changes nothing. -/
theorem take_forgets (first second : Store) (sets : Export) :
    (first.take sets).2 = .ok sets.count ∧ (second.take sets).2 = .ok sets.count ∧
      (∃ tables, (first.take sets).1.tables = some tables ∧
        (second.take sets).1.tables = some tables) ∧
      AnswersAlike (first.take sets).1 (second.take sets).1 ∧
      (first.take sets).1 = { (second.take sets).1 with medium := first.medium } ∧
      (first.take sets).1.take sets = first.take sets := by
  refine ⟨by rw [take_eq], by rw [take_eq], ⟨_, by rw [take_eq], by rw [take_eq]⟩, ?_, ?_, ?_⟩
  · exact answersAlike_of_tables_eq (by rw [take_eq, take_eq])
  · rw [take_eq, take_eq]
  · rw [take_eq, take_eq]

end CardCensus.Store
