import CardCensus.Proofs.Text.Split
import CardCensus.Query.Written
import Mathlib.Data.List.TakeWhile

/-!
# Clauses that are put together again

A match text whose clauses are not blank is read clause by clause. A text that is put together from
clauses has these clauses, so the filters of a text can be asked a single one of its requests:
`Match.isolated` writes the filters as they stand, followed by one clause for the request.

Results:
* `pieces_joinWith`: parts without separators are found again.
* `read_writeRequest`: a request is read as it is written.
* `isPlain_of_mem_requests`: every request that a text makes can be written.
* `ofText_isolated`: the isolated text has the query of the whole text, and the one request.
-/

namespace CardCensus

/-! ## Parts with a separator between them -/

theorem joinWith_cons {separator : Char} {part : List Char} {parts : List (List Char)}
    (h : parts ≠ []) :
    joinWith separator (part :: parts) = part ++ separator :: joinWith separator parts := by
  cases parts with
  | nil => exact absurd rfl h
  | cons next rest => simp [joinWith, List.intercalate]

theorem joinWith_singleton (separator : Char) (part : List Char) :
    joinWith separator [part] = part := by
  simp [joinWith, List.intercalate]

theorem pieces_joinWith {separator : Char} {parts : List (List Char)} (hne : parts ≠ [])
    (h : ∀ part ∈ parts, separator ∉ part) :
    Text.pieces (· == separator) (joinWith separator parts) = parts := by
  have hpart : ∀ {part : List Char}, separator ∉ part → ∀ c ∈ part, (c == separator) = false :=
    fun hnot c hc => beq_eq_false_iff_ne.mpr fun heq => hnot (heq ▸ hc)
  induction parts with
  | nil => exact absurd rfl hne
  | cons part parts ih =>
    rw [List.forall_mem_cons] at h
    by_cases hparts : parts = []
    · rw [hparts, joinWith_singleton, Text.pieces_eq_singleton (hpart h.1)]
    · rw [joinWith_cons hparts, Text.pieces_append_cons (hpart h.1) (beq_self_eq_true _),
        ih hparts h.2]

theorem notMem_joinWith {separator c : Char} (hc : c ≠ separator) {parts : List (List Char)}
    (h : ∀ part ∈ parts, c ∉ part) : c ∉ joinWith separator parts := by
  induction parts with
  | nil => exact List.not_mem_nil
  | cons part parts ih =>
    rw [List.forall_mem_cons] at h
    by_cases hparts : parts = []
    · rw [hparts, joinWith_singleton]
      exact h.1
    · rw [joinWith_cons hparts, List.mem_append, List.mem_cons, not_or, not_or]
      exact ⟨h.1, hc, ih h.2⟩

/-! ## The clauses of a text -/

theorem isBlankText_of_mem {clause : List Char} {c : Char} (h : c ∈ clause)
    (hc : Text.isBlank c = false) :
    Text.isBlankText clause = false := by
  rw [Text.isBlankText, List.all_eq_false]
  exact ⟨c, h, Bool.eq_false_iff.mp hc⟩

namespace Clause

/-- The clauses of a match text as they stand between the commas. -/
def parts (text : String) : List (List Char) :=
  Text.pieces (· == separator) text.toList

/-- The clause filters. -/
def isFilter : Clause → Bool
  | filter _ _ => true
  | _ => false

/-- The clause asks. -/
def isRequest : Clause → Bool
  | request _ _ => true
  | _ => false

theorem separator_notMem_of_mem_parts {text : String} {part : List Char} (h : part ∈ parts text) :
    separator ∉ part := fun hmem =>
  beq_eq_false_iff_ne.mp (Text.mem_of_mem_pieces h hmem).2 rfl

/-- Every clause that is read stands in the text. -/
theorem exists_mem_parts {text : String} {clause : Clause} (h : clause ∈ readAll text.toList) :
    ∃ part ∈ parts text, read part = clause := by
  obtain ⟨part, hpart, hread⟩ := List.mem_map.mp h
  exact ⟨part, List.takeWhile_subset _ hpart, hread⟩

/-- Without a blank clause, a text is read to its end. -/
theorem readAll_eq {text : String} (h : ∀ part ∈ parts text, Text.isBlankText part = false) :
    readAll text.toList = (parts text).map read := by
  have hall : (parts text).takeWhile (fun clause => !Text.isBlankText clause) = parts text := by
    rw [List.takeWhile_eq_self_iff]
    intro part hpart
    rw [h part hpart]
    rfl
  exact congrArg (List.map read) hall

theorem parts_joinWith {clauses : List (List Char)} (hne : clauses ≠ [])
    (h : ∀ clause ∈ clauses, separator ∉ clause) :
    parts (String.ofList (joinWith separator clauses)) = clauses := by
  rw [parts, String.toList_ofList, pieces_joinWith hne h]

/-- Only filters add to a query. -/
theorem foldl_addTo_filter (clauses : List Clause) (query : Query) :
    (clauses.filter isFilter).foldl addTo query = clauses.foldl addTo query := by
  rw [List.foldl_filter]
  congr 1
  funext query clause
  cases clause <;> rfl

/-- Only clauses that ask make requests. -/
theorem flatMap_requests_filter (clauses : List Clause) :
    (clauses.filter isRequest).flatMap requests = clauses.flatMap requests := by
  induction clauses with
  | nil => rfl
  | cons clause rest ih =>
    cases clause with
    | request verb columns => exact congrArg (columns.map (Request.mk verb) ++ ·) ih
    | filter | skipped => exact ih

end Clause

/-! ## Requests as clauses -/

/-- The column of the request is one that a match text can name: it stands between bars and commas,
    without blanks around it. -/
structure Request.IsPlain (request : Request) : Prop where
  comma : Clause.separator ∉ request.column.toList
  bar : Clause.valueSeparator ∉ request.column.toList
  trimmed : Text.trim request.column.toList = request.column.toList
  filled : request.column ≠ ""

instance (request : Request) : Decidable request.IsPlain :=
  decidable_of_iff (Clause.separator ∉ request.column.toList ∧
    Clause.valueSeparator ∉ request.column.toList ∧
      Text.trim request.column.toList = request.column.toList ∧ request.column ≠ "")
    ⟨fun ⟨comma, bar, trimmed, filled⟩ => ⟨comma, bar, trimmed, filled⟩,
      fun h => ⟨h.comma, h.bar, h.trimmed, h.filled⟩⟩

theorem isPlain_standard : Request.standard.IsPlain := by
  decide

/-- The value is one that stands between bars and commas, without blanks around it. -/
structure Clause.IsValue (value : String) : Prop where
  comma : Clause.separator ∉ value.toList
  bar : Clause.valueSeparator ∉ value.toList
  trimmed : Text.trim value.toList = value.toList

instance (value : String) : Decidable (Clause.IsValue value) :=
  decidable_of_iff (Clause.separator ∉ value.toList ∧ Clause.valueSeparator ∉ value.toList ∧
      Text.trim value.toList = value.toList)
    ⟨fun ⟨comma, bar, trimmed⟩ => ⟨comma, bar, trimmed⟩, fun h => ⟨h.comma, h.bar, h.trimmed⟩⟩

theorem isValue_of_mem_values {text : String} {part head rest : List Char}
    (hpart : part ∈ Clause.parts text)
    (hcut : Text.cutAtChar Clause.fieldMark part = some (head, rest)) {value : String}
    (h : value ∈ Clause.values rest) : Clause.IsValue value := by
  obtain ⟨piece, hpiece, rfl⟩ := List.mem_map.mp h
  have hchars : ∀ c ∈ Text.trim piece, c ∈ part ∧ c ≠ Clause.valueSeparator := by
    intro c hc
    obtain ⟨hmem, hbar⟩ := Text.mem_of_mem_pieces hpiece (Text.mem_of_mem_trim hc)
    rw [Text.cutAtChar_eq_some hcut]
    exact ⟨List.mem_append_right _ (List.mem_cons_of_mem _ hmem), beq_eq_false_iff_ne.mp hbar⟩
  exact {
    comma := by
      rw [String.toList_ofList]
      exact fun hmem => Clause.separator_notMem_of_mem_parts hpart (hchars _ hmem).1
    bar := by
      rw [String.toList_ofList]
      exact fun hmem => (hchars _ hmem).2 rfl
    trimmed := by rw [String.toList_ofList, Text.trim_trim] }

/-- Every column that a clause asks for is plain. -/
theorem isPlain_of_mem_requests_read {text : String} {part : List Char}
    (hpart : part ∈ Clause.parts text)
    {request : Request} (h : request ∈ (Clause.read part).requests) : request.IsPlain := by
  unfold Clause.read at h
  split at h
  · cases h
  · rename_i head rest hcut
    simp only at h
    split at h
    · rename_i verb _
      obtain ⟨column, hcolumn, rfl⟩ := List.mem_map.mp h
      obtain ⟨hvalue, hfilled⟩ := List.mem_filter.mp hcolumn
      obtain ⟨hcomma, hbar, htrimmed⟩ := isValue_of_mem_values hpart hcut hvalue
      exact ⟨hcomma, hbar, htrimmed, of_decide_eq_true hfilled⟩
    · cases h

theorem cutAtChar_writeRequest (request : Request) :
    Text.cutAtChar Clause.fieldMark (writeRequest request) =
      some (request.verb.function.toList, request.column.toList) := by
  apply Text.cutAtChar_append_cons
  cases request.verb <;> decide

theorem ofWord?_trim_function (verb : Verb) :
    Verb.ofWord? (String.ofList (Text.trim verb.function.toList)) = some verb := by
  cases verb <;> decide

/-- A request is read as it is written. -/
theorem read_writeRequest {request : Request} (h : request.IsPlain) :
    Clause.read (writeRequest request) = .request request.verb [request.column] := by
  have hpieces : Text.pieces (· == Clause.valueSeparator) request.column.toList =
      [request.column.toList] :=
    Text.pieces_eq_singleton fun c hc => beq_eq_false_iff_ne.mpr fun heq => h.bar (heq ▸ hc)
  have hvalues : (Clause.values request.column.toList).filter (· ≠ "") = [request.column] := by
    rw [Clause.values, hpieces, List.map_singleton, h.trimmed, String.ofList_toList]
    exact List.filter_cons_of_pos (decide_eq_true h.filled)
  rw [Clause.read, cutAtChar_writeRequest]
  simp only [ofWord?_trim_function, hvalues]

theorem separator_notMem_writeRequest {request : Request} (h : request.IsPlain) :
    Clause.separator ∉ writeRequest request := by
  have hword : Clause.separator ∉ request.verb.function.toList ++ [Clause.fieldMark] := by
    cases request.verb <;> decide
  intro hmem
  rw [writeRequest, List.append_cons] at hmem
  exact (List.mem_append.mp hmem).elim hword h.comma

theorem isBlankText_writeRequest (request : Request) :
    Text.isBlankText (writeRequest request) = false :=
  isBlankText_of_mem (List.mem_append_right _ List.mem_cons_self) (by decide)

/-! ## One request of a text -/

namespace Match

/-- No clause of the text is blank. -/
def IsFilled (text : String) : Prop :=
  ∀ clause ∈ Clause.parts text, Text.isBlankText clause = false

instance (text : String) : Decidable (IsFilled text) :=
  inferInstanceAs (Decidable (∀ clause ∈ Clause.parts text, Text.isBlankText clause = false))

/-- The filters of a match text as they stand, followed by a single clause that makes
    one request. -/
def isolated (text : String) (request : Request) : String :=
  String.ofList (joinWith Clause.separator
    ((Clause.parts text).filter (fun clause => (Clause.read clause).isFilter) ++
      [writeRequest request]))

theorem ofText_eq {text : String} (h : IsFilled text) :
    ofText text = ofClauses ((Clause.parts text).map Clause.read) := by
  rw [ofText, Clause.readAll_eq h]

/-- Every request of a text can be written as a clause. -/
theorem isPlain_of_mem_requests {text : String} {request : Request}
    (hrequest : request ∈ (ofText text).requests) : request.IsPlain := by
  rw [ofText, ofClauses, orStandard] at hrequest
  split at hrequest
  · rw [List.mem_singleton.mp hrequest]
    exact isPlain_standard
  · obtain ⟨clause, hclause, hmem⟩ := List.mem_flatMap.mp hrequest
    obtain ⟨part, hpart, rfl⟩ := Clause.exists_mem_parts hclause
    exact isPlain_of_mem_requests_read hpart hmem

theorem parts_isolated (text : String) {request : Request} (h : request.IsPlain) :
    Clause.parts (isolated text request) =
      (Clause.parts text).filter (fun clause => (Clause.read clause).isFilter) ++
        [writeRequest request] := by
  apply Clause.parts_joinWith (List.append_ne_nil_of_right_ne_nil _ (List.cons_ne_nil _ _))
  intro clause hclause
  rcases List.mem_append.mp hclause with hclause | hclause
  · exact Clause.separator_notMem_of_mem_parts (List.mem_filter.mp hclause).1
  · rw [List.mem_singleton.mp hclause]
    exact separator_notMem_writeRequest h

theorem isFilled_isolated {text : String} (hfilled : IsFilled text) {request : Request}
    (h : request.IsPlain) :
    IsFilled (isolated text request) := by
  intro clause hclause
  rw [parts_isolated text h] at hclause
  rcases List.mem_append.mp hclause with hclause | hclause
  · exact hfilled clause (List.mem_filter.mp hclause).1
  · rw [List.mem_singleton.mp hclause]
    exact isBlankText_writeRequest request

/-- The isolated text has the query of the whole text and makes the one request. -/
theorem ofText_isolated {text : String} (hfilled : IsFilled text) {request : Request}
    (h : request.IsPlain) :
    (ofText (isolated text request)).query = (ofText text).query ∧
      (ofText (isolated text request)).requests = [request] := by
  have hread : (Clause.parts (isolated text request)).map Clause.read =
      ((Clause.parts text).map Clause.read).filter Clause.isFilter ++
        [.request request.verb [request.column]] := by
    rw [parts_isolated text h, List.map_append, List.map_singleton, read_writeRequest h,
      List.filter_map]
    rfl
  have hnone :
      (((Clause.parts text).map Clause.read).filter Clause.isFilter).flatMap Clause.requests =
        [] := by
    rw [List.flatMap_eq_nil_iff]
    intro clause hclause
    have hfilter := (List.mem_filter.mp hclause).2
    cases clause with
    | filter field terms => rfl
    | skipped text => cases hfilter
    | request verb columns => cases hfilter
  rw [ofText_eq (isFilled_isolated hfilled h), ofText_eq hfilled, hread]
  constructor
  · rw [ofClauses, ofClauses, List.foldl_append, Clause.foldl_addTo_filter]
    rfl
  · rw [ofClauses, List.flatMap_append, hnone]
    rfl

end Match

end CardCensus
