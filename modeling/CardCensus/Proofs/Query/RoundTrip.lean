import CardCensus.Proofs.Query.Clauses
import CardCensus.Proofs.Query.Folding

/-!
# Queries that are written and read again

A query is written as a match text, one clause for each field and one for each request. Reading
takes it apart at three kinds of separators and trims all parts, and it tells fields from verbs by
their words. A query is plain when none of this gets in the way: its values stand between bars and
commas, and its unknown fields are called by words that are no others. Plain queries are read as
they are written, and what a match text says is plain.

Results:
* `read_writeFilter`: a field with its terms is read as it is written.
* `ofClauses_entries`: the clauses of distinct fields and of requests make up the query again.
* `ofText_writeQuery`: a plain query that is written alone is read with the standard request.
* `isPlain_query_ofText`: the query of a match text is plain.
* `ofText_write`: writing and reading, both ways round.
-/

namespace CardCensus

/-! ## Words -/

theorem Verb.ofWord?_eq_none_iff {word : String} :
    ofWord? word = none ↔ ∀ known ∈ words, known.1 ≠ Text.folded word := by
  have hsame : ∀ known : String × Verb,
      (known.1.toList == Text.fold word.toList) = true ↔ known.1 = Text.folded word := by
    intro known
    rw [beq_iff_eq, ← Text.toList_folded, String.toList_inj]
  rw [ofWord?, Option.map_eq_none_iff, List.find?_eq_none]
  exact forall₂_congr fun known _ => not_congr (hsame known)

namespace Field

theorem ofWord_eq_unknown_iff {word other : String} :
    ofWord word = .unknown other ↔ word = other ∧ ∀ known ∈ words, known.1 ≠ Text.folded word := by
  have hsame : ∀ known : String × Field,
      (known.1.toList == Text.fold word.toList) = true ↔ known.1 = Text.folded word := by
    intro known
    rw [beq_iff_eq, ← Text.toList_folded, String.toList_inj]
  unfold ofWord
  cases hfound : words.find? fun known => known.1.toList == Text.fold word.toList with
  | none =>
    rw [List.find?_eq_none] at hfound
    have hunknown : ∀ known ∈ words, known.1 ≠ Text.folded word := fun known hmem =>
      mt (hsame known).mpr (hfound known hmem)
    simp only [unknown.injEq, and_iff_left hunknown]
  | some known =>
    have hmem : known ∈ words := List.mem_of_find?_eq_some hfound
    have htest := List.find?_some hfound
    have hword : known.1 = Text.folded word := (hsame known).mp htest
    have hfield : known.2.isKnown = true := isKnown_of_mem_words known hmem
    constructor
    · intro heq
      change known.2 = unknown other at heq
      rw [heq] at hfield
      cases hfield
    · exact fun hunknown => absurd hword (hunknown.2 known hmem)

/-- The word stands in front of a colon, without blanks around it, and names neither a verb nor a
    field. -/
structure IsForeign (word : String) : Prop where
  comma : Clause.separator ∉ word.toList
  colon : Clause.fieldMark ∉ word.toList
  trimmed : Text.trim word.toList = word.toList
  verb : ∀ known ∈ Verb.words, known.1 ≠ Text.folded word
  field : ∀ known ∈ Field.words, known.1 ≠ Text.folded word

instance (word : String) : Decidable (IsForeign word) :=
  decidable_of_iff (Clause.separator ∉ word.toList ∧ Clause.fieldMark ∉ word.toList ∧
      Text.trim word.toList = word.toList ∧ (∀ known ∈ Verb.words, known.1 ≠ Text.folded word) ∧
      ∀ known ∈ Field.words, known.1 ≠ Text.folded word)
    ⟨fun ⟨comma, colon, trimmed, verb, field⟩ => ⟨comma, colon, trimmed, verb, field⟩,
      fun h => ⟨h.comma, h.colon, h.trimmed, h.verb, h.field⟩⟩

/-- The field has a word of its own to be written by. -/
def IsPlain : Field → Prop
  | unknown word => IsForeign word
  | _ => True

instance : (field : Field) → Decidable field.IsPlain
  | unknown word => inferInstanceAs (Decidable (IsForeign word))
  | name | color | colorIdentity | supertype | type | subtype | set | rarity => .isTrue True.intro

/-- The word that a field is written by can stand in a clause and is read as the field. -/
structure Returns (field : Field) : Prop where
  comma : Clause.separator ∉ field.display.toList
  colon : Clause.fieldMark ∉ field.display.toList
  trimmed : Text.trim field.display.toList = field.display.toList
  verb : Verb.ofWord? field.display = none
  field : ofWord field.display = field

theorem IsPlain.returns {field : Field} (h : field.IsPlain) : field.Returns := by
  cases field with
  | unknown word =>
    obtain ⟨hcomma, hcolon, htrimmed, hverb, hfield⟩ := h
    exact ⟨hcomma, hcolon, htrimmed, Verb.ofWord?_eq_none_iff.mpr hverb,
      ofWord_eq_unknown_iff.mpr ⟨rfl, hfield⟩⟩
  | name | color | colorIdentity | supertype | type | subtype | set | rarity =>
    exact ⟨by decide, by decide, by decide, by decide, by decide⟩

end Field

/-! ## Filters as clauses -/

/-- The field and its terms can be written as a clause. -/
structure Query.IsPlainEntry (field : Field) (terms : List String) : Prop where
  field : field.IsPlain
  filled : terms ≠ []
  values : ∀ term ∈ terms, Clause.IsValue term

instance (field : Field) (terms : List String) : Decidable (Query.IsPlainEntry field terms) :=
  decidable_of_iff (field.IsPlain ∧ terms ≠ [] ∧ ∀ term ∈ terms, Clause.IsValue term)
    ⟨fun ⟨field, filled, values⟩ => ⟨field, filled, values⟩, fun h => ⟨h.field, h.filled, h.values⟩⟩

namespace Query.IsPlainEntry

variable {field : Field} {terms : List String}

theorem pieces_terms (h : IsPlainEntry field terms) :
    Text.pieces (· == Clause.valueSeparator)
      (joinWith Clause.valueSeparator (terms.map String.toList)) =
      terms.map String.toList := by
  apply pieces_joinWith (mt List.map_eq_nil_iff.mp h.filled)
  intro part hpart
  obtain ⟨term, hterm, rfl⟩ := List.mem_map.mp hpart
  exact (h.values term hterm).bar

theorem values_terms (h : IsPlainEntry field terms) :
    Clause.values (joinWith Clause.valueSeparator (terms.map String.toList)) = terms := by
  rw [Clause.values, h.pieces_terms, List.map_map]
  conv_rhs => rw [← List.map_id terms]
  apply List.map_congr_left
  intro term hterm
  rw [Function.comp_apply, (h.values term hterm).trimmed, String.ofList_toList, id]

/-- A field with its terms is read as it is written. -/
theorem read_writeFilter (h : IsPlainEntry field terms) :
    Clause.read (writeFilter field terms) = .filter field terms := by
  obtain ⟨-, hcolon, htrimmed, hverb, hfield⟩ := h.field.returns
  rw [Clause.read, writeFilter, Text.cutAtChar_append_cons hcolon]
  simp only [htrimmed, String.ofList_toList, hverb, hfield, h.values_terms]

theorem separator_notMem_writeFilter (h : IsPlainEntry field terms) :
    Clause.separator ∉ writeFilter field terms := by
  have hterms : Clause.separator ∉ joinWith Clause.valueSeparator (terms.map String.toList) := by
    apply notMem_joinWith (by decide)
    intro part hpart
    obtain ⟨term, hterm, rfl⟩ := List.mem_map.mp hpart
    exact (h.values term hterm).comma
  have hmark : Clause.separator ≠ Clause.fieldMark := by decide
  rw [writeFilter, List.mem_append, List.mem_cons, not_or, not_or]
  exact ⟨h.field.returns.comma, hmark, hterms⟩

end Query.IsPlainEntry

theorem isBlankText_writeFilter (field : Field) (terms : List String) :
    Text.isBlankText (writeFilter field terms) = false :=
  isBlankText_of_mem (List.mem_append_right _ List.mem_cons_self) (by decide)

/-! ## Plain queries -/

/-- Each field is mentioned once, and each can be written as a clause. -/
structure Query.IsPlain (query : Query) : Prop where
  distinct : query.fieldNames.Nodup
  entries : ∀ entry ∈ query.fields, Query.IsPlainEntry entry.1 entry.2

instance (query : Query) : Decidable query.IsPlain :=
  decidable_of_iff (query.fieldNames.Nodup ∧ ∀ entry ∈ query.fields,
    Query.IsPlainEntry entry.1 entry.2)
    ⟨fun ⟨distinct, entries⟩ => ⟨distinct, entries⟩, fun h => ⟨h.distinct, h.entries⟩⟩

/-- The clause that a field with its terms is written as. -/
def Clause.ofEntry (entry : Field × List String) : Clause :=
  .filter entry.1 entry.2

/-- The clause that a request is written as. -/
def Clause.ofRequest (request : Request) : Clause :=
  .request request.verb [request.column]

/-! ## Writing, then reading -/

theorem parts_write {query : Query} {requests : List Request} (hquery : query.IsPlain)
    (hne : query.fields ≠ [] ∨ requests ≠ []) (hrequests : ∀ request ∈ requests, request.IsPlain) :
    Clause.parts (query.write requests) =
      query.fields.map (fun entry => writeFilter entry.1 entry.2) ++ requests.map writeRequest := by
  apply Clause.parts_joinWith
  · intro hnil
    obtain ⟨hfields, hasked⟩ := List.append_eq_nil_iff.mp hnil
    exact hne.elim (fun h => h (List.map_eq_nil_iff.mp hfields)) fun h =>
      h (List.map_eq_nil_iff.mp hasked)
  · intro clause hclause
    rcases List.mem_append.mp hclause with hclause | hclause
    · obtain ⟨entry, hentry, rfl⟩ := List.mem_map.mp hclause
      exact (hquery.entries entry hentry).separator_notMem_writeFilter
    · obtain ⟨request, hrequest, rfl⟩ := List.mem_map.mp hclause
      exact separator_notMem_writeRequest (hrequests request hrequest)

/-- No clause of a written query is blank. -/
theorem isFilled_write {query : Query} {requests : List Request} (hquery : query.IsPlain)
    (hne : query.fields ≠ [] ∨ requests ≠ []) (hrequests : ∀ request ∈ requests, request.IsPlain) :
    Match.IsFilled (query.write requests) := by
  intro part hpart
  rw [parts_write hquery hne hrequests] at hpart
  rcases List.mem_append.mp hpart with hpart | hpart
  · obtain ⟨entry, -, rfl⟩ := List.mem_map.mp hpart
    exact isBlankText_writeFilter entry.1 entry.2
  · obtain ⟨request, -, rfl⟩ := List.mem_map.mp hpart
    exact isBlankText_writeRequest request

/-- The clauses of a written query are read one by one as they were written. -/
theorem readAll_written {query : Query} {requests : List Request} (hquery : query.IsPlain)
    (hne : query.fields ≠ [] ∨ requests ≠ []) (hrequests : ∀ request ∈ requests, request.IsPlain) :
    Clause.readAll (query.write requests).toList =
      query.fields.map Clause.ofEntry ++ requests.map Clause.ofRequest := by
  rw [Clause.readAll_eq (isFilled_write hquery hne hrequests), parts_write hquery hne hrequests,
    List.map_append, List.map_map, List.map_map]
  congr 1
  · apply List.map_congr_left
    intro entry hentry
    exact (hquery.entries entry hentry).read_writeFilter
  · apply List.map_congr_left
    intro request hrequest
    exact read_writeRequest (hrequests request hrequest)

theorem readAll_write {query : Query} {requests : List Request} (hquery : query.IsPlain)
    (hne : requests ≠ [])
    (hrequests : ∀ request ∈ requests, request.IsPlain) :
    Clause.readAll (query.write requests).toList =
      query.fields.map Clause.ofEntry ++ requests.map Clause.ofRequest :=
  readAll_written hquery (Or.inr hne) hrequests

theorem Query.addTo_of_notMem {field : Field} {terms : List String}
    {fields : List (Field × List String)}
    (h : field ∉ fields.map (·.1)) : addTo field terms fields = fields ++ [(field, terms)] := by
  induction fields with
  | nil => rfl
  | cons entry rest ih =>
    obtain ⟨other, others⟩ := entry
    rw [List.map_cons, List.mem_cons, not_or] at h
    rw [addTo, if_neg (Ne.symm h.1), ih h.2, List.cons_append]

/-- Fields that are new come behind those that there are. -/
theorem foldl_addTo_ofEntry {entries : List (Field × List String)} {query : Query}
    (h : (query.fieldNames ++ entries.map (·.1)).Nodup) :
    (entries.map Clause.ofEntry).foldl Clause.addTo query = ⟨query.fields ++ entries⟩ := by
  induction entries generalizing query with
  | nil => rw [List.append_nil]; rfl
  | cons entry rest ih =>
    obtain ⟨field, terms⟩ := entry
    have hnew : field ∉ query.fields.map (·.1) := by
      rw [List.map_cons, List.nodup_append] at h
      exact fun hmem => h.2.2 field hmem field List.mem_cons_self rfl
    -- The field becomes one of those that the rest of the entries have to differ from.
    have hadd : Clause.addTo query (Clause.ofEntry (field, terms)) =
        ⟨query.fields ++ [(field, terms)]⟩ :=
      congrArg Query.mk (Query.addTo_of_notMem hnew)
    have hnames :
        (Query.fieldNames ⟨query.fields ++ [(field, terms)]⟩ ++ rest.map (·.1)).Nodup := by
      rw [Query.fieldNames, List.map_append, List.append_assoc]
      exact h
    rw [List.map_cons, List.foldl_cons, hadd, ih hnames, List.append_assoc]
    rfl

/-- The clauses of distinct fields and of requests make up the query again, and the requests if
    there are any. -/
theorem ofClauses_entries {query : Query} (requests : List Request)
    (hdistinct : query.fieldNames.Nodup) :
    Match.ofClauses (query.fields.map Clause.ofEntry ++ requests.map Clause.ofRequest) =
      ⟨query, Match.orStandard requests, []⟩ := by
  have hfields : (query.fields.map Clause.ofEntry).foldl Clause.addTo {} = query :=
    @foldl_addTo_ofEntry query.fields {} hdistinct
  have hquery : (requests.map Clause.ofRequest).foldl Clause.addTo query = query := by
    rw [List.foldl_map]
    exact List.foldl_fixed requests
  have hnone : (query.fields.map Clause.ofEntry).flatMap Clause.requests = [] := by
    rw [List.flatMap_map, List.flatMap_eq_nil_iff]
    exact fun _ _ => rfl
  have hasked : (requests.map Clause.ofRequest).flatMap Clause.requests = requests := by
    rw [List.flatMap_map]
    exact List.flatMap_singleton' requests
  have hskipped : (query.fields.map Clause.ofEntry ++ requests.map Clause.ofRequest).filterMap
      Clause.skippedText? = [] := by
    rw [List.filterMap_eq_nil_iff, List.forall_mem_append, List.forall_mem_map, List.forall_mem_map]
    exact ⟨fun _ _ => rfl, fun _ _ => rfl⟩
  rw [Match.ofClauses, List.foldl_append, hfields, hquery, List.flatMap_append, hnone, hasked,
    hskipped,
    List.nil_append]

theorem ofClauses_written {query : Query} {requests : List Request}
    (hdistinct : query.fieldNames.Nodup)
    (hne : requests ≠ []) :
    Match.ofClauses (query.fields.map Clause.ofEntry ++ requests.map Clause.ofRequest) =
      ⟨query, requests, []⟩ := by
  rw [ofClauses_entries requests hdistinct, Match.orStandard, if_neg (mt List.isEmpty_iff.mp hne)]

/-- A query that is written alone is read with the standard request. -/
theorem ofText_writeQuery {query : Query} (hquery : query.IsPlain) (hne : query.fields ≠ []) :
    Match.ofText (query.write []) = ⟨query, [.standard], []⟩ := by
  have hrequests : ∀ request ∈ ([] : List Request), request.IsPlain :=
    fun _ hrequest => nomatch hrequest
  rw [Match.ofText, readAll_written hquery (Or.inl hne) hrequests,
    ofClauses_entries [] hquery.distinct]
  rfl

/-! ## Reading, then writing -/

theorem isPlain_ofWord {word : String} (hcomma : Clause.separator ∉ word.toList)
    (hcolon : Clause.fieldMark ∉ word.toList) (htrimmed : Text.trim word.toList = word.toList)
    (hverb : Verb.ofWord? word = none) : (Field.ofWord word).IsPlain := by
  cases hfield : Field.ofWord word with
  | unknown other =>
    obtain ⟨rfl, hforeign⟩ := Field.ofWord_eq_unknown_iff.mp hfield
    exact ⟨hcomma, hcolon, htrimmed, Verb.ofWord?_eq_none_iff.mp hverb, hforeign⟩
  | _ => exact True.intro

/-- What a clause of a text says of a field can be written as a clause. -/
theorem isPlainEntry_of_read {text : String} {part : List Char} (hpart : part ∈ Clause.parts text)
    {field : Field} {terms : List String} (h : Clause.read part = .filter field terms) :
    Query.IsPlainEntry field terms := by
  unfold Clause.read at h
  split at h
  · cases h
  · rename_i head rest hcut
    simp only at h
    split at h
    · cases h
    · rename_i hverb
      obtain ⟨rfl, rfl⟩ := Clause.filter.inj h
      -- The word stands before the first colon of a clause that has no comma.
      have hcomma : Clause.separator ∉ Text.trim head := by
        intro hmem
        apply Clause.separator_notMem_of_mem_parts hpart
        rw [Text.cutAtChar_eq_some hcut]
        exact List.mem_append_left _ (Text.mem_of_mem_trim hmem)
      have hcolon : Clause.fieldMark ∉ Text.trim head := fun hmem =>
        Text.notMem_of_cutAtChar hcut (Text.mem_of_mem_trim hmem)
      refine ⟨?_, ?_, fun term hterm => isValue_of_mem_values hpart hcut hterm⟩
      · apply isPlain_ofWord _ _ _ hverb
        · rw [String.toList_ofList]
          exact hcomma
        · rw [String.toList_ofList]
          exact hcolon
        · rw [String.toList_ofList, Text.trim_trim]
      · exact mt List.map_eq_nil_iff.mp (Text.pieces_ne_nil _ rest)

theorem Query.mem_addTo {field : Field} {terms : List String} {fields : List (Field × List String)}
    {entry : Field × List String} (h : entry ∈ addTo field terms fields) :
    entry ∈ fields ∨ ∃ before, entry = (field, before ++ terms) ∧
      (before = [] ∨ (field, before) ∈ fields) := by
  induction fields with
  | nil => exact .inr ⟨[], List.mem_singleton.mp h, .inl rfl⟩
  | cons first rest ih =>
    obtain ⟨other, others⟩ := first
    rw [addTo] at h
    split at h
    · rename_i hfield
      rcases List.mem_cons.mp h with rfl | h
      · exact .inr ⟨others, by rw [hfield], .inr (hfield ▸ List.mem_cons_self)⟩
      · exact .inl (List.mem_cons_of_mem _ h)
    · rcases List.mem_cons.mp h with rfl | h
      · exact .inl List.mem_cons_self
      · rcases ih h with hrest | ⟨before, heq, hbefore⟩
        · exact .inl (List.mem_cons_of_mem _ hrest)
        · exact .inr ⟨before, heq, hbefore.imp_right (List.mem_cons_of_mem _)⟩

/-- **Step.** A plain query stays plain when plain terms are added to a field. -/
theorem Query.IsPlain.add {query : Query} (h : query.IsPlain) {field : Field} {terms : List String}
    (hentry : Query.IsPlainEntry field terms) : (query.add field terms).IsPlain where
  distinct := Query.fields_add_nodup h.distinct field terms
  entries := by
    intro entry hmem
    rcases Query.mem_addTo hmem with hold | ⟨before, rfl, hbefore⟩
    · exact h.entries entry hold
    · refine ⟨hentry.field, List.append_ne_nil_of_right_ne_nil _ hentry.filled, ?_⟩
      intro term hterm
      rcases List.mem_append.mp hterm with hterm | hterm
      · rcases hbefore with rfl | hbefore
        · cases hterm
        · exact (h.entries _ hbefore).values term hterm
      · exact hentry.values term hterm

/-- **Run.** Clauses of a text make a plain query. -/
theorem isPlain_foldl_addTo {text : String} {clauses : List Clause}
    (hclauses : ∀ clause ∈ clauses, ∃ part ∈ Clause.parts text, Clause.read part = clause)
    {query : Query}
    (h : query.IsPlain) : (clauses.foldl Clause.addTo query).IsPlain := by
  induction clauses generalizing query with
  | nil => exact h
  | cons clause rest ih =>
    rw [List.forall_mem_cons] at hclauses
    apply ih hclauses.2
    obtain ⟨part, hpart, hread⟩ := hclauses.1
    cases clause with
    | filter field terms => exact h.add (isPlainEntry_of_read hpart hread)
    | skipped | request => exact h

/-- The query of a match text is plain. -/
theorem isPlain_query_ofText (text : String) : (Match.ofText text).query.IsPlain :=
  isPlain_foldl_addTo (fun _ hclause => Clause.exists_mem_parts hclause)
    ⟨List.nodup_nil, fun _ hentry => nomatch hentry⟩

/-! ## Both ways round -/

/-- **Main theorem.** A plain query is read as it is written, with plain requests behind it. What a
    match text says is plain, and written anew it is read as the same. -/
theorem ofText_write :
    (∀ (query : Query) (requests : List Request), query.IsPlain → requests ≠ [] →
      (∀ request ∈ requests, request.IsPlain) →
      Match.ofText (query.write requests) = ⟨query, requests, []⟩) ∧
    ∀ text : String,
      ((Match.ofText text).query.IsPlain ∧ (Match.ofText text).requests ≠ [] ∧
        ∀ request ∈ (Match.ofText text).requests, request.IsPlain) ∧
      Match.ofText ((Match.ofText text).query.write (Match.ofText text).requests) =
        ⟨(Match.ofText text).query, (Match.ofText text).requests, []⟩ := by
  have hwrite : ∀ (query : Query) (requests : List Request), query.IsPlain → requests ≠ [] →
      (∀ request ∈ requests, request.IsPlain) →
      Match.ofText (query.write requests) = ⟨query, requests, []⟩ := by
    intro query requests hquery hne hrequests
    rw [Match.ofText, readAll_write hquery hne hrequests, ofClauses_written hquery.distinct hne]
  refine ⟨hwrite, fun text => ?_⟩
  have hquery := isPlain_query_ofText text
  have hne : (Match.ofText text).requests ≠ [] := Match.requests_ne_nil _
  have hrequests : ∀ request ∈ (Match.ofText text).requests, request.IsPlain :=
    fun _ hrequest => Match.isPlain_of_mem_requests hrequest
  exact ⟨⟨hquery, hne, hrequests⟩, hwrite _ _ hquery hne hrequests⟩

/-- A query with an empty term, colons and marks in its terms, and two fields that are not known. -/
def motleyQuery : Query where
  fields :=
    [(.set, ["LEA", ""]), (.unknown "fl|avor", ["!a:b"]), (.unknown "", ["x"]),
      (.colorIdentity, ["!"])]

/-- Two requests, one of them for a column with a colon. -/
def motleyRequests : List Request :=
  [⟨.maximum, "a:b"⟩, ⟨.average, "cmc"⟩]

theorem ofText_write_motley :
    motleyQuery.IsPlain ∧ motleyRequests ≠ [] ∧ (∀ request ∈ motleyRequests, request.IsPlain) ∧
    motleyQuery.write motleyRequests = "set:LEA|,fl|avor:!a:b,:x,colorID:!,max:a:b,avg:cmc" ∧
    Match.ofText (motleyQuery.write motleyRequests) = ⟨motleyQuery, motleyRequests, []⟩ ∧
    Match.ofText ((Match.ofText " Sets: lea |ice,oops,SET:|x,, max:id").query.write [.standard]) =
      ⟨⟨[(.set, ["lea", "ice", "", "x"])]⟩, [.standard], []⟩ := by
  have hquery : motleyQuery.IsPlain := by decide +kernel
  have hrequests : ∀ request ∈ motleyRequests, request.IsPlain := by decide +kernel
  have hread : Match.ofText " Sets: lea |ice,oops,SET:|x,, max:id" =
      ⟨⟨[(.set, ["lea", "ice", "", "x"])]⟩, [.standard], ["oops"]⟩ := by decide +kernel
  obtain ⟨hwrite, hrewrite⟩ := ofText_write
  have hagain := (hrewrite " Sets: lea |ice,oops,SET:|x,, max:id").2
  rw [hread] at hagain ⊢
  exact ⟨hquery, by decide, hrequests, by decide +kernel,
    hwrite motleyQuery motleyRequests hquery (by decide) hrequests, hagain⟩

end CardCensus
