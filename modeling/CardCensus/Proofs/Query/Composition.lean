import CardCensus.Proofs.Query.Clauses

/-!
# Two match texts with a comma between them

A text that goes on behind a comma is read as far as its first half is: a blank clause in the first
half ends the reading there, and otherwise the second half is read as if it stood alone, and what it
says is added to what the first half says. Fields keep the places they have, requests and skipped
clauses come one behind the other, and the standard request is made only when neither half asks for
anything.

Results:
* `Clause.readAll_comma`: the clauses of the whole text.
* `Query.fieldNames_merge`, `Query.terms?_merge`: the fields and the terms of a merged query.
* `Query.foldl_addTo_merge`: clauses add to a merged query what they add to the other one.
* `Match.requests_ofText`: the requests of a text are those that it makes, or the standard one.
* `Match.ofText_comma`: what the whole text says.
-/

namespace CardCensus

/-! ## Clauses -/

namespace Clause

/-- The text goes on behind a comma. -/
def comma (first second : String) : String :=
  first ++ "," ++ second

theorem parts_comma (first second : String) :
    parts (comma first second) = parts first ++ parts second := by
  have htext : (comma first second).toList = first.toList ++ separator :: second.toList := by
    simp [comma, separator]
  rw [parts, htext]
  exact @Text.pieces_append (· == separator) separator (beq_self_eq_true separator)
    first.toList second.toList

/-- A blank clause in the first half ends the reading, and otherwise the second half is read behind
    it. -/
theorem readAll_comma (first second : String) : readAll (comma first second).toList =
    if ∃ part ∈ parts first, Text.isBlankText part = true then readAll first.toList
    else readAll first.toList ++ readAll second.toList := by
  have hread : ∀ text : String,
      readAll text.toList = ((parts text).takeWhile fun part => !Text.isBlankText part).map read :=
        fun _ => rfl
  rw [hread, hread first, hread second, parts_comma]
  split
  · rename_i hblank
    obtain ⟨part, hpart, hblank⟩ := hblank
    have hshort : ((parts first).takeWhile fun part => !Text.isBlankText part).length ≠
        (parts first).length := by
      intro hlength
      have hall := (List.takeWhile_prefix _).eq_of_length hlength
      rw [List.takeWhile_eq_self_iff] at hall
      simpa [hblank] using hall part hpart
    rw [List.takeWhile_append, if_neg hshort]
  · rename_i hfilled
    have hall : (parts first).takeWhile (fun part => !Text.isBlankText part) = parts first := by
      rw [List.takeWhile_eq_self_iff]
      simpa using hfilled
    rw [List.takeWhile_append, hall, if_pos rfl, List.map_append]

end Clause

/-! ## Merged queries -/

namespace Query

/-- The query with the fields and terms of another one added in order. -/
def merge (query other : Query) : Query :=
  other.fields.foldl (fun query (field, terms) => query.add field terms) query

variable {query other : Query} {field : Field}

/-- A field that is there keeps its place, and a new one comes last. -/
theorem map_addTo (field : Field) (terms : List String) (fields : List (Field × List String)) :
    (addTo field terms fields).map (·.1) =
      if field ∈ fields.map (·.1) then fields.map (·.1) else fields.map (·.1) ++ [field] := by
  induction fields with
  | nil => simp [addTo]
  | cons entry rest ih =>
    obtain ⟨first, before⟩ := entry
    by_cases hfirst : first = field
    · simp [addTo, hfirst]
    · simp only [addTo, hfirst, ↓reduceIte, List.map_cons, List.mem_cons, Ne.symm hfirst, false_or,
        ih]
      split <;> simp

theorem fieldNames_add (query : Query) (field : Field) (terms : List String) :
    (query.add field terms).fieldNames =
    if field ∈ query.fieldNames then query.fieldNames else query.fieldNames ++ [field] :=
  map_addTo field terms query.fields

theorem add_append (query : Query) (field : Field) (terms more : List String) :
    query.add field (terms ++ more) = (query.add field terms).add field more := by
  obtain ⟨fields⟩ := query
  simp only [add, mk.injEq]
  induction fields with
  | nil => simp [addTo]
  | cons entry rest ih =>
    obtain ⟨first, before⟩ := entry
    by_cases hfirst : first = field
    · simp [addTo, hfirst]
    · simp [addTo, hfirst, ih]

/-- Terms for a field that is there can be added before or after those for another field. -/
theorem add_comm (hmem : field ∈ query.fieldNames) {later : Field} (hne : later ≠ field)
    (terms more : List String) :
    (query.add later more).add field terms = (query.add field terms).add later more := by
  obtain ⟨fields⟩ := query
  simp only [add, fieldNames, mk.injEq] at hmem ⊢
  induction fields with
  | nil => simp at hmem
  | cons entry rest ih =>
    obtain ⟨first, before⟩ := entry
    by_cases hfirst : first = field
    · simp [addTo, hfirst, Ne.symm hne]
    · have hrest : field ∈ rest.map (·.1) := by simpa [Ne.symm hfirst] using hmem
      by_cases hlater : first = later
      · simp [addTo, hlater, hne]
      · simp [addTo, hfirst, hlater, ih hrest]

/-- Terms for a field that is there, and that the other query does not mention, can be added before
    it is merged. -/
theorem merge_add_of_notMem (hmem : field ∈ query.fieldNames) (hother : field ∉ other.fieldNames)
    (terms : List String) : (query.merge other).add field terms =
      (query.add field terms).merge other := by
  obtain ⟨fields⟩ := other
  induction fields generalizing query with
  | nil => rfl
  | cons entry rest ih =>
    obtain ⟨first, more⟩ := entry
    rw [fieldNames, List.map_cons, List.mem_cons, not_or] at hother
    have hkeep : field ∈ (query.add first more).fieldNames := by
      rw [fieldNames_add]
      split
      · exact hmem
      · exact List.mem_append_left _ hmem
    show ((query.add first more).merge ⟨rest⟩).add field terms =
      ((query.add field terms).add first more).merge ⟨rest⟩
    rw [ih hkeep hother.2, add_comm hmem (Ne.symm hother.1)]

/-- What is added to the other query is added to the merged one. -/
theorem merge_add (hdistinct : other.fieldNames.Nodup) (query : Query) (field : Field)
    (terms : List String) :
    query.merge (other.add field terms) = (query.merge other).add field terms := by
  obtain ⟨fields⟩ := other
  induction fields generalizing query with
  | nil => rfl
  | cons entry rest ih =>
    obtain ⟨first, before⟩ := entry
    obtain ⟨hnew, hrest⟩ := List.nodup_cons.mp hdistinct
    by_cases hfirst : first = field
    · subst hfirst
      have hadd : (⟨(first, before) :: rest⟩ : Query).add first terms =
          ⟨(first, before ++ terms) :: rest⟩ := by
        simp [add, addTo]
      have hmem : first ∈ (query.add first before).fieldNames := mem_map_addTo.mpr (Or.inl rfl)
      rw [hadd]
      show (query.add first (before ++ terms)).merge ⟨rest⟩ =
        ((query.add first before).merge ⟨rest⟩).add first terms
      rw [add_append, merge_add_of_notMem hmem hnew]
    · have hadd : (⟨(first, before) :: rest⟩ : Query).add field terms =
          ⟨(first, before) :: addTo field terms rest⟩ := by
        simp [add, addTo, hfirst]
      rw [hadd]
      exact ih (query.add first before) hrest

/-- **Step.** A clause does to the merged query what it does to the other one. -/
theorem addTo_merge (hdistinct : other.fieldNames.Nodup) (query : Query) (clause : Clause) :
    clause.addTo (query.merge other) = query.merge (clause.addTo other) := by
  cases clause with
  | filter field terms => exact (merge_add hdistinct query field terms).symm
  | skipped | request => rfl

/-- **Run.** Clauses add to a merged query what they add to the other one. -/
theorem foldl_addTo_merge (hdistinct : other.fieldNames.Nodup) (query : Query)
    (clauses : List Clause) :
    clauses.foldl Clause.addTo (query.merge other) =
      query.merge (clauses.foldl Clause.addTo other) := by
  induction clauses generalizing other with
  | nil => rfl
  | cons clause rest ih =>
    rw [List.foldl_cons, List.foldl_cons, addTo_merge hdistinct]
    exact ih (Match.foldl_addTo_nodup [clause] hdistinct)

/-- The fields that both mention stand where they stood, and the others come behind. -/
theorem fieldNames_merge (hdistinct : other.fieldNames.Nodup) (query : Query) :
    (query.merge other).fieldNames =
    query.fieldNames ++ other.fieldNames.filter (· ∉ query.fieldNames) := by
  obtain ⟨fields⟩ := other
  induction fields generalizing query with
  | nil => simp [merge, fieldNames]
  | cons entry rest ih =>
    obtain ⟨first, terms⟩ := entry
    obtain ⟨hnew, hrest⟩ := List.nodup_cons.mp hdistinct
    have hnames : fieldNames ⟨(first, terms) :: rest⟩ = first :: fieldNames ⟨rest⟩ := rfl
    show ((query.add first terms).merge ⟨rest⟩).fieldNames = _
    rw [ih (query.add first terms) hrest, fieldNames_add, hnames]
    by_cases hmem : first ∈ query.fieldNames
    · simp [hmem]
    · -- The first field is new, and the rest of them are others.
      have hothers : (fieldNames ⟨rest⟩).filter (· ∉ query.fieldNames ++ [first]) =
          (fieldNames ⟨rest⟩).filter (· ∉ query.fieldNames) := by
        apply List.filter_congr
        intro later hlater
        have hne : later ≠ first := fun heq => hnew (heq ▸ hlater)
        simp [hne]
      rw [if_neg hmem, hothers]
      simp [hmem]

/-- A field has its terms from both queries, in this order. -/
theorem terms?_merge (hdistinct : other.fieldNames.Nodup) (query : Query) (field : Field) :
    ((query.merge other).terms? field).getD [] = (query.terms? field).getD [] ++
      (other.terms? field).getD [] := by
  obtain ⟨fields⟩ := other
  induction fields generalizing query with
  | nil => simp [merge, terms?]
  | cons entry rest ih =>
    obtain ⟨first, terms⟩ := entry
    obtain ⟨hnew, hrest⟩ := List.nodup_cons.mp hdistinct
    show (((query.add first terms).merge ⟨rest⟩).terms? field).getD [] = _
    rw [ih (query.add first terms) hrest]
    by_cases hfirst : first = field
    · subst hfirst
      have hnone : terms? ⟨rest⟩ first = none := by
        rw [terms?, Option.map_eq_none_iff, List.find?_eq_none]
        intro entry hentry heq
        exact hnew (List.mem_map.mpr ⟨entry, hentry, beq_iff_eq.mp heq⟩)
      rw [terms?_add_self, hnone, terms?_cons, if_pos rfl]
      simp
    · rw [terms?_add_of_ne query (Ne.symm hfirst), terms?_cons, if_neg hfirst]

end Query

/-! ## What the whole text says -/

namespace Match

/-- The requests that the clauses of a text make, without the standard one. -/
def asked (text : String) : List Request :=
  (Clause.readAll text.toList).flatMap Clause.requests

theorem requests_ofText (text : String) :
    (ofText text).requests = if asked text = [] then [.standard] else asked text := by
  show orStandard (asked text) = _
  simp only [orStandard, List.isEmpty_iff]

/-- **Main theorem.** Of a text with a comma in it, only what stands before the comma is read if
    some clause there is blank. Otherwise the fields and terms behind the comma are added to the
    query before it: a field that is there keeps its place and gets the terms behind its own, and a
    new field comes last. What is asked before the comma comes before what is asked behind it, the
    number of cards is asked for only if nothing else is, and the skipped clauses follow each other
    likewise. -/
theorem ofText_comma (first second : String) :
    ((∃ part ∈ Clause.parts first, Text.isBlankText part = true) →
      ofText (Clause.comma first second) = ofText first) ∧
    (IsFilled first →
      (ofText (Clause.comma first second)).query =
        (ofText first).query.merge (ofText second).query ∧
      (ofText (Clause.comma first second)).query.fieldNames = (ofText first).query.fieldNames ++
        (ofText second).query.fieldNames.filter (· ∉ (ofText first).query.fieldNames) ∧
      (∀ field, ((ofText (Clause.comma first second)).query.terms? field).getD [] =
        ((ofText first).query.terms? field).getD [] ++ ((ofText second).query.terms? field).getD
          []) ∧
      asked (Clause.comma first second) = asked first ++ asked second ∧
      (ofText (Clause.comma first second)).requests =
        (if asked first = [] ∧ asked second = [] then [.standard]
          else asked first ++ asked second) ∧
      (ofText (Clause.comma first second)).skipped =
        (ofText first).skipped ++ (ofText second).skipped) := by
  refine ⟨fun hblank => ?_, fun hfilled => ?_⟩
  · rw [ofText, Clause.readAll_comma, if_pos hblank, ofText]
  · have hnone : ¬ ∃ part ∈ Clause.parts first, Text.isBlankText part = true := by
      rintro ⟨part, hpart, hblank⟩
      rw [hfilled part hpart] at hblank
      cases hblank
    have hclauses := Clause.readAll_comma first second
    rw [if_neg hnone] at hclauses
    have hdistinct : (ofText second).query.fieldNames.Nodup := fieldNames_nodup _
    have hquery : (ofText (Clause.comma first second)).query =
        (ofText first).query.merge (ofText second).query := by
      rw [ofText, hclauses]
      show (_ ++ _ : List Clause).foldl Clause.addTo {} = _
      rw [List.foldl_append]
      exact @Query.foldl_addTo_merge {} List.nodup_nil (ofText first).query
        (Clause.readAll second.toList)
    have hasked : asked (Clause.comma first second) = asked first ++ asked second := by
      rw [asked, hclauses, List.flatMap_append, asked, asked]
    refine ⟨hquery, ?_, fun field => ?_, hasked, ?_, ?_⟩
    · rw [hquery, Query.fieldNames_merge hdistinct]
    · rw [hquery, Query.terms?_merge hdistinct]
    · rw [requests_ofText, hasked]
      simp only [List.append_eq_nil_iff]
    · rw [ofText, hclauses]
      exact List.filterMap_append

/-- A text with a clause that is set aside. -/
def firstHalf : String := "set:LEA,oops,type:!Land"

/-- A text that mentions a field of the other one again, asks, and ends before its last clause. -/
def secondHalf : String := "color:BR|,SET_CODE:!ICE,max:cmc,so,,sum:power"

theorem ofText_comma_halves : IsFilled firstHalf ∧
    (ofText (Clause.comma firstHalf secondHalf)).query =
      ⟨[(.set, ["LEA", "!ICE"]), (.type, ["!Land"]), (.color, ["BR", ""])]⟩ ∧
    (ofText (Clause.comma firstHalf secondHalf)).requests = [⟨.maximum, "cmc"⟩] ∧
    (ofText (Clause.comma firstHalf secondHalf)).skipped = ["oops", "so"] ∧
    (∃ part ∈ Clause.parts secondHalf, Text.isBlankText part = true) ∧
    ofText (Clause.comma secondHalf firstHalf) = ofText secondHalf := by
  have hfilled : IsFilled firstHalf := by decide +kernel
  have hblank : ∃ part ∈ Clause.parts secondHalf, Text.isBlankText part = true := by decide +kernel
  obtain ⟨hquery, -, -, -, hrequests, hskipped⟩ := (ofText_comma firstHalf secondHalf).2 hfilled
  refine ⟨hfilled, ?_, ?_, ?_, hblank, (ofText_comma secondHalf firstHalf).1 hblank⟩
  · rw [hquery]
    decide +kernel
  · rw [hrequests]
    decide +kernel
  · rw [hskipped]
    decide +kernel

end Match

end CardCensus
