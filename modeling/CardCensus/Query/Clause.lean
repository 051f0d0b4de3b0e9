import CardCensus.Query
import CardCensus.Text.Blank
import CardCensus.Text.Split

/-!
# Clauses of a match text

A match text is a list of clauses between commas. A clause has a field or verb before its first
colon and values between bars after it. Blanks around every part are dropped. A blank clause ends
the reading, and a clause without a colon is set aside.

Results:
* `Match.requests_ne_nil`: something is always asked.
* `Match.fieldNames_nodup`: a field is listed once.
-/

namespace CardCensus

/-- One clause of a match text. -/
inductive Clause where
  /-- The clause has no colon. -/
  | skipped (text : String)
  /-- Terms for a field. -/
  | filter (field : Field) (terms : List String)
  /-- An aggregate for each of several columns. -/
  | request (verb : Verb) (columns : List String)
  deriving Repr, DecidableEq

namespace Clause

/-- The separator of clauses. -/
def separator : Char := ','

/-- What parts a field from its values. -/
def fieldMark : Char := ':'

/-- The separator of values. -/
def valueSeparator : Char := '|'

/-- The values of a clause, without blanks around them. -/
def values (s : List Char) : List String :=
  (Text.pieces (· == valueSeparator) s).map fun value => String.ofList (Text.trim value)

/-- The meaning of one clause. -/
def read (clause : List Char) : Clause :=
  match Text.cutAtChar fieldMark clause with
  | none => skipped (String.ofList (Text.trim clause))
  | some (head, rest) =>
    let word := String.ofList (Text.trim head)
    match Verb.ofWord? word with
    | some verb => request verb ((values rest).filter (· ≠ ""))
    | none => filter (Field.ofWord word) (values rest)

/-- The clauses of a match text up to the first blank one. -/
def readAll (text : List Char) : List Clause :=
  ((Text.pieces (· == separator) text).takeWhile fun clause => !Text.isBlankText clause).map read

/-- The query with the terms of a clause. -/
def addTo (query : Query) : Clause → Query
  | filter field terms => query.add field terms
  | _ => query

/-- The requests of a clause. -/
def requests : Clause → List Request
  | request verb columns => columns.map (Request.mk verb)
  | _ => []

/-- The text of a clause that is set aside. -/
def skippedText? : Clause → Option String
  | skipped text => some text
  | _ => none

end Clause

/-- The meaning of a match text. -/
structure Match where
  query : Query
  requests : List Request
  skipped : List String
  deriving Repr, DecidableEq

namespace Match

/-- The requests, or the standard one when there is none. -/
def orStandard (requests : List Request) : List Request :=
  if requests.isEmpty then [.standard] else requests

/-- The meaning of a list of clauses. -/
def ofClauses (clauses : List Clause) : Match where
  query := clauses.foldl Clause.addTo {}
  requests := orStandard (clauses.flatMap Clause.requests)
  skipped := clauses.filterMap Clause.skippedText?

/-- The meaning of a match text (`parse_match`). -/
def ofText (text : String) : Match :=
  ofClauses (Clause.readAll text.toList)

theorem requests_ne_nil (clauses : List Clause) : (ofClauses clauses).requests ≠ [] := by
  simp only [ofClauses, orStandard]
  split
  · simp
  · rename_i h
    simpa using h

theorem foldl_addTo_nodup (clauses : List Clause) {query : Query} (h : query.fieldNames.Nodup) :
    (clauses.foldl Clause.addTo query).fieldNames.Nodup := by
  induction clauses generalizing query with
  | nil => exact h
  | cons clause rest ih =>
    rw [List.foldl_cons]
    refine ih ?_
    cases clause with
    | filter field terms => exact Query.fields_add_nodup h field terms
    | skipped text => exact h
    | request verb columns => exact h

theorem fieldNames_nodup (clauses : List Clause) : (ofClauses clauses).query.fieldNames.Nodup :=
  foldl_addTo_nodup clauses (by simp [Query.fieldNames])

end Match

end CardCensus
