import CardCensus.Proofs.Answer.Diagnostics
import CardCensus.Proofs.Answer.Isolation
import CardCensus.Proofs.Store.Outcomes
import CardCensus.Proofs.Text.Lines
import Mathlib.Algebra.GroupWithZero.Nat

/-!
# Answers of one line each

What an answer shows comes from the match text, from the stored names, from the template of the
pictures, and from fixed words. The tables name a column that they refuse, but they see only columns
that are identifiers. So a diagnostic is broken into lines only by the part of the text that it
quotes, and the line for a request only by its column. Where the match text is one line, all of them
are.

Results:
* `oneLine_texts_read`: what is read of a one-line clause.
* `Diagnostic.oneLine_message_iff`, `StoreError.oneLine_message_iff`: a wording is broken into lines
  only by the name that it quotes.
* `Answer.oneLine_lineFor_iff`: a line is broken only by the column of its request.
* `Answer.stats_line_by_line`: the lines of answers and of whole responses.
-/

namespace CardCensus

open Text (OneLine)

/-! ## What a match text says -/

theorem Field.oneLine_display_ofWord {word : String} (h : OneLine word) :
    OneLine (ofWord word).display := by
  have hknown : ∀ entry ∈ words, OneLine entry.2.display := by decide
  unfold ofWord
  split
  · rename_i hfound
    exact hknown _ (List.mem_of_find?_eq_some hfound)
  · exact h

theorem Field.oneLine_display_of_isKnown {field : Field} (h : field.isKnown = true) :
    OneLine field.display := by
  cases field with
  | unknown word => cases h
  | _ => decide

namespace Clause

/-- The texts that a clause holds. -/
def texts : Clause → List String
  | skipped text => [text]
  | filter field terms => field.display :: terms
  | request _ columns => columns

theorem oneLine_of_mem_values {s : List Char} (h : '\n' ∉ s) {value : String}
    (hvalue : value ∈ values s) :
    OneLine value := by
  obtain ⟨piece, hpiece, rfl⟩ := List.mem_map.mp hvalue
  rw [Text.oneLine_ofList_iff]
  exact fun hmem => h (Text.mem_of_mem_pieces hpiece (Text.mem_of_mem_trim hmem)).1

/-- What is read of a one-line clause is one-line. -/
theorem oneLine_texts_read {clause : List Char} (h : '\n' ∉ clause) :
    ∀ text ∈ (read clause).texts, OneLine text := by
  have htrim : ∀ {s : List Char}, '\n' ∉ s → OneLine (String.ofList (Text.trim s)) := fun hs => by
    rw [Text.oneLine_ofList_iff]
    exact fun hmem => hs (Text.mem_of_mem_trim hmem)
  unfold read
  cases hcut : Text.cutAtChar fieldMark clause with
  | none =>
    intro text htext
    obtain rfl := List.mem_singleton.mp htext
    exact htrim h
  | some parts =>
    obtain ⟨head, rest⟩ := parts
    rw [Text.cutAtChar_eq_some hcut, List.mem_append, List.mem_cons, not_or, not_or] at h
    dsimp only
    split
    · intro column hcolumn
      exact oneLine_of_mem_values h.2.2 (List.mem_filter.mp hcolumn).1
    · intro text htext
      rcases List.mem_cons.mp htext with rfl | hterm
      · exact Field.oneLine_display_ofWord (htrim h.1)
      · exact oneLine_of_mem_values h.2.2 hterm

end Clause

namespace Match

variable {text : String}

theorem oneLine_of_mem_texts (h : OneLine text) {clause : Clause}
    (hclause : clause ∈ Clause.readAll text.toList) :
    ∀ part ∈ clause.texts, OneLine part := by
  obtain ⟨part, hpart, rfl⟩ := Clause.exists_mem_parts hclause
  exact Clause.oneLine_texts_read fun hmem => h (Text.mem_of_mem_pieces hpart hmem).1

theorem oneLine_of_mem_skipped (h : OneLine text) {skipped : String}
    (hskipped : skipped ∈ (ofText text).skipped) :
    OneLine skipped := by
  obtain ⟨clause, hclause, htext⟩ := List.mem_filterMap.mp hskipped
  cases clause with
  | skipped part =>
    obtain rfl := Option.some.inj htext
    exact oneLine_of_mem_texts h hclause part List.mem_cons_self
  | filter | request => cases htext

theorem oneLine_of_mem_requests (h : OneLine text) {request : Request}
    (hrequest : request ∈ (ofText text).requests) :
    OneLine request.column := by
  rw [ofText, ofClauses, orStandard] at hrequest
  split at hrequest
  · obtain rfl := List.mem_singleton.mp hrequest
    decide
  · obtain ⟨clause, hclause, hmem⟩ := List.mem_flatMap.mp hrequest
    cases clause with
    | request verb columns =>
      obtain ⟨column, hcolumn, rfl⟩ := List.mem_map.mp hmem
      exact oneLine_of_mem_texts h hclause column hcolumn
    | skipped | filter => cases hmem

theorem oneLine_of_mem_fields (h : OneLine text) {field : Field} {terms : List String}
    (hentry : (field, terms) ∈ (ofText text).query.fields) :
    OneLine field.display ∧ ∀ term ∈ terms, OneLine term := by
  obtain ⟨hne, rfl⟩ := mem_fields_ofClauses.mp hentry
  have hgiven : ∀ given ∈ (Clause.readAll text.toList).filterMap (Clause.terms? field),
      ∀ part ∈ field.display :: given, OneLine part := by
    intro given hgiven
    obtain ⟨clause, hclause, hterms⟩ := List.mem_filterMap.mp hgiven
    cases clause with
    | filter other others =>
      rw [Clause.terms?] at hterms
      split at hterms
      · rename_i hfield
        obtain rfl := Option.some.inj hterms
        exact hfield ▸ oneLine_of_mem_texts h hclause
      · cases hterms
    | skipped | request => cases hterms
  obtain ⟨given, hmem⟩ := List.exists_mem_of_ne_nil _ hne
  refine ⟨hgiven given hmem _ List.mem_cons_self, fun term hterm => ?_⟩
  obtain ⟨other, hother, hmem⟩ := List.mem_flatten.mp hterm
  exact hgiven other hother term (List.mem_cons_of_mem _ hmem)

/-- Something is always asked. -/
theorem requests_ofText_ne_nil (text : String) : (ofText text).requests ≠ [] := by
  rw [ofText, ofClauses, orStandard]
  split
  · exact List.cons_ne_nil _ _
  · rename_i hne
    exact fun hnil => hne (List.isEmpty_iff.mpr hnil)

end Match

namespace Diagnostic

/-- The part of the match text that a diagnostic quotes. -/
def quoted : Diagnostic → String
  | skippedClause text => text
  | unknownField word => word
  | unknownTerm _ term => term

variable {parsed : Match} {diagnostic : Diagnostic}

/-- Terms are reported of known fields only. -/
theorem isKnown_of_unknownTerm {field : Field} {term : String}
    (h : unknownTerm field term ∈ ofMatch parsed) :
    field.isKnown = true := by
  rcases List.mem_append.mp h with h | h
  · obtain ⟨skipped, -, heq⟩ := List.mem_map.mp h
    cases heq
  · obtain ⟨entry, -, hmem⟩ := List.mem_flatMap.mp h
    obtain ⟨rfl, -, hnot⟩ := mem_ofField_iff.mp hmem
    cases hfield : entry.1 with
    | unknown word =>
      rw [hfield] at hnot
      cases hnot
    | _ => rfl

/-- A diagnostic is broken into lines only by what it quotes. -/
theorem oneLine_message_iff (h : diagnostic ∈ ofMatch parsed) :
    OneLine diagnostic.message ↔ OneLine diagnostic.quoted := by
  unfold message
  cases diagnostic with
  | skippedClause text | unknownField word => simp [quoted, OneLine]
  | unknownTerm field term =>
    have hdisplay : '\n' ∉ field.display.toList :=
      Field.oneLine_display_of_isKnown (isKnown_of_unknownTerm h)
    simp [quoted, OneLine, hdisplay]

theorem oneLine_content {term : String} (h : OneLine term) : OneLine (Negation.content term) := by
  unfold Negation.content Negation.negated?
  split
  · exact h
  · rename_i c rest hterm
    split
    · have hrest : '\n' ∉ rest := fun hmem => h (hterm ▸ List.mem_cons_of_mem c hmem)
      exact Text.oneLine_ofList_iff.mpr hrest
    · exact h

/-- What is quoted of a one-line text is one-line. -/
theorem oneLine_quoted {text : String} (htext : OneLine text)
    (h : diagnostic ∈ ofMatch (Match.ofText text)) :
    OneLine diagnostic.quoted := by
  rcases List.mem_append.mp h with h | h
  · obtain ⟨skipped, hskipped, rfl⟩ := List.mem_map.mp h
    exact Match.oneLine_of_mem_skipped htext hskipped
  · obtain ⟨⟨field, terms⟩, hentry, hmem⟩ := List.mem_flatMap.mp h
    obtain ⟨hfield, hterms⟩ := Match.oneLine_of_mem_fields htext hentry
    by_cases hknown : field.isKnown = true
    · change diagnostic ∈ ofField field terms at hmem
      rw [ofField_eq hknown, List.mem_map] at hmem
      obtain ⟨term, hterm, rfl⟩ := hmem
      have hwritten := (Negation.ordered_perm terms).mem_iff.mp (List.mem_filter.mp hterm).1
      exact oneLine_content (hterms term hwritten)
    · cases field with
      | unknown word =>
        obtain rfl := List.mem_singleton.mp hmem
        exact hfield
      | _ => exact absurd rfl hknown

end Diagnostic

/-! ## What a store answers -/

/-- No line feed stands in the name of a stored card. -/
def Store.NamesOneLine (store : Store) : Prop :=
  ∀ tables ∈ store.tables, ∀ card ∈ tables.cards.entries, OneLine card.name

theorem Limit.oneLine_message (limit : Limit) : OneLine limit.message := by
  cases limit <;> simp [message, OneLine]

/-- An error is broken into lines only by the name that it quotes. -/
theorem StoreError.oneLine_message_iff {cause : StoreError} :
    OneLine cause.message ↔ ∀ name ∈ cause.quoted?, OneLine name := by
  unfold message
  cases cause with
  | table cause =>
    dsimp only
    unfold TableError.message
    cases cause with
    | exceeded limit => exact iff_of_true (Limit.oneLine_message limit) nofun
    | _ => simp [quoted?, TableError.quoted?, OneLine]
  | invalidColumn | typeMismatch => simp [quoted?, OneLine]
  | deadlineExceeded stage => cases stage <;> simp [Stage.name, quoted?, OneLine]

theorem Store.oneLine_of_mem_fixedNames : ∀ name ∈ fixedNames, OneLine name := by decide +kernel

/-! ## Lines -/

namespace Outcome

theorem oneLine_heading_iff {request : Request} : OneLine (heading request) ↔
    OneLine request.column := by
  have hlabel : '\n' ∉ request.verb.label.toList := by
    cases request.verb <;> simp [Verb.label]
  simp [heading, OneLine, hlabel]

theorem oneLine_failureLine_iff {request : Request} {cause : StoreError} :
    OneLine (failureLine request cause) ↔ OneLine request.column ∧ ∀ name ∈ cause.quoted?,
      OneLine name := by
  rw [← oneLine_heading_iff, ← StoreError.oneLine_message_iff]
  simp [failureLine, OneLine]

theorem oneLine_found {template : String} (htemplate : OneLine template) (verb : Verb)
    {aggregate : Aggregate}
    (hcard : ∀ card ∈ aggregate.card, OneLine card.name)
    (hvalue : aggregate.card = none → ∀ s, aggregate.value ≠ .text s) :
    OneLine (found template verb aggregate) := by
  unfold found
  split
  · decide +kernel
  · split
    · rename_i card hshown
      have hspace : OneLine " " := by decide +kernel
      rw [Text.oneLine_append_iff, Text.oneLine_append_iff]
      exact ⟨⟨hcard card hshown, hspace⟩, Picture.oneLine_address htemplate _⟩
    · rename_i hshown
      exact Value.oneLine_display (hvalue hshown)

end Outcome

namespace Answer

/-- The diagnostics of a match that are reported. -/
def reported (settings : AnswerSettings) (parsed : Match) : List Diagnostic :=
  if settings.strict then Diagnostic.ofMatch parsed else []

variable {store : Store} {settings : AnswerSettings}

theorem warnings_eq (settings : AnswerSettings) (parsed : Match) :
    warnings settings parsed = (reported settings parsed).map Diagnostic.message := by
  unfold warnings reported
  split <;> rfl

theorem mem_ofMatch_of_reported {parsed : Match} {diagnostic : Diagnostic}
    (h : diagnostic ∈ reported settings parsed) :
    diagnostic ∈ Diagnostic.ofMatch parsed := by
  unfold reported at h
  split at h
  · exact h
  · cases h

theorem stats_ne_nil (store : Store) (settings : AnswerSettings) (interior : String) :
    stats store settings interior ≠ [] := by
  rw [stats, answers_eq]
  exact List.append_ne_nil_of_right_ne_nil _
    (List.map_eq_nil_iff.not.mpr (Match.requests_ofText_ne_nil interior))

theorem length_stats (store : Store) (settings : AnswerSettings) (interior : String) :
    (stats store settings interior).length =
      (reported settings (Match.ofText interior)).length +
        (Match.ofText interior).requests.length := by
  rw [stats, List.length_append, warnings_eq, List.length_map, length_answers]

/-- The line for a request is broken into lines only by its column. -/
theorem oneLine_lineFor_iff (htemplate : OneLine settings.imageTemplate)
    (hnames : store.NamesOneLine) (query : Query)
    (request : Request) : OneLine (lineFor store settings query request) ↔
      OneLine request.column := by
  unfold lineFor
  split
  · rw [Outcome.oneLine_failureLine_iff]
    exact and_iff_left nofun
  · unfold Outcome.line
    cases hresult : store.aggregate (.ofQuery query) request with
    | error cause =>
      dsimp only
      rw [Outcome.oneLine_failureLine_iff]
      -- the error may quote the column once more, and so break where the heading does
      refine and_iff_left_of_imp fun hcolumn name hname => ?_
      rcases Store.quoted_of_aggregate hresult hname with rfl | hfixed
      · exact hcolumn
      · exact Store.oneLine_of_mem_fixedNames name hfixed
    | ok aggregate =>
      dsimp only
      obtain ⟨hcard, hvalue⟩ := Store.shown_of_aggregate hresult
      have hshown : ∀ card ∈ aggregate.card, OneLine card.name := by
        intro card hmem
        obtain ⟨tables, htables, row, hrow, hname⟩ := hcard card hmem
        exact hname ▸ hnames tables htables row hrow
      rw [Text.oneLine_append_iff, Outcome.oneLine_heading_iff]
      exact and_iff_left (Outcome.oneLine_found htemplate _ hshown hvalue)

/-- A one-line match text is answered by one-line entries. -/
theorem oneLine_of_mem_stats (htemplate : OneLine settings.imageTemplate)
    (hnames : store.NamesOneLine)
    {interior line : String} (hinterior : OneLine interior)
    (h : line ∈ stats store settings interior) :
    OneLine line := by
  rw [stats, List.mem_append, warnings_eq, answers_eq, List.mem_map, List.mem_map] at h
  rcases h with ⟨diagnostic, hmem, rfl⟩ | ⟨request, hmem, rfl⟩
  · have hdiagnostic := mem_ofMatch_of_reported hmem
    exact (Diagnostic.oneLine_message_iff hdiagnostic).mpr
      (Diagnostic.oneLine_quoted hinterior hdiagnostic)
  · exact (oneLine_lineFor_iff htemplate hnames _ request).mpr
      (Match.oneLine_of_mem_requests hinterior hmem)

theorem respond_of_stats {message : String} (h : Message.stats message ≠ []) :
    respond store settings message = some ("\n".intercalate (lines store settings message)) := by
  rw [respond, List.isEmpty_eq_false_iff.mpr h]
  rfl

/-- One-line entries are the first lines of the response, and the only ones without lookups. -/
theorem exists_linesOf_lines {message : String} (h : Message.stats message ≠ [])
    (hentries : ∀ entry ∈ (Message.stats message).flatMap (stats store settings), OneLine entry) :
    ∃ others, Text.linesOf ("\n".intercalate (lines store settings message)) =
        (Message.stats message).flatMap (stats store settings) ++ others ∧
      (Message.lookups message = [] → others = []) := by
  unfold lines
  -- the lines of lookups hold texts of cards, which may have any number of lines
  by_cases hlookups : Message.lookups message = []
  · have hne : (Message.stats message).flatMap (stats store settings) ≠ [] := by
      obtain ⟨interior, hinterior⟩ := List.exists_mem_of_ne_nil _ h
      exact fun hnil => stats_ne_nil store settings interior
        (List.flatMap_eq_nil_iff.mp hnil interior hinterior)
    refine ⟨[], ?_, fun _ => rfl⟩
    rw [hlookups, List.map_nil, Lookup.lines, List.map_nil, List.append_nil,
      Text.linesOf_joined hne hentries]
  · have hne : Lookup.lines settings.imageTemplate ((Message.lookups message).map (lookup store)) ≠
        [] := by
      simpa [Lookup.lines] using hlookups
    exact ⟨_, Text.linesOf_joined_append hentries hne, fun hnil => absurd hnil hlookups⟩

/-- **Main theorem.** The template of the pictures and the stored names being of one line, an entry
    is broken into lines only by the match text: a diagnostic by the part that it quotes, the line
    for a request by its column. A match text of one line is answered by entries of one line. The
    response to a message with such match texts starts with one line for each diagnostic reported
    and one for each request, and without lookups that is all. -/
theorem stats_line_by_line (htemplate : OneLine settings.imageTemplate)
    (hnames : store.NamesOneLine) :
    (∀ interior, ∃ diagnosed answered, stats store settings interior = diagnosed ++ answered ∧
      List.Forall₂ (fun diagnostic line => OneLine line ↔ OneLine diagnostic.quoted)
        (reported settings (Match.ofText interior)) diagnosed ∧
      List.Forall₂ (fun request line => OneLine line ↔ OneLine request.column)
        (Match.ofText interior).requests answered ∧
      (OneLine interior → ∀ line ∈ stats store settings interior, OneLine line)) ∧
    ∀ message, Message.stats message ≠ [] → (∀ interior ∈ Message.stats message, OneLine interior) →
      ∃ response entries others, respond store settings message = some response ∧
        Text.linesOf response = entries ++ others ∧
        entries = (Message.stats message).flatMap (stats store settings) ∧
        entries.length = ((Message.stats message).map fun interior =>
          (reported settings (Match.ofText interior)).length +
            (Match.ofText interior).requests.length).sum ∧
        (Message.lookups message = [] → others = []) := by
  constructor
  · intro interior
    refine ⟨_, _, rfl, ?_, ?_, fun hinterior line =>
      oneLine_of_mem_stats htemplate hnames hinterior⟩
    · rw [warnings_eq, List.forall₂_map_right_iff, List.forall₂_same]
      exact fun diagnostic hmem => Diagnostic.oneLine_message_iff (mem_ofMatch_of_reported hmem)
    · rw [answers_eq, List.forall₂_map_right_iff, List.forall₂_same]
      exact fun request _ => oneLine_lineFor_iff htemplate hnames _ request
  · intro message hstats hinteriors
    have hentries : ∀ entry ∈ (Message.stats message).flatMap (stats store settings),
        OneLine entry := by
      intro entry hentry
      obtain ⟨interior, hinterior, hmem⟩ := List.mem_flatMap.mp hentry
      exact oneLine_of_mem_stats htemplate hnames (hinteriors interior hinterior) hmem
    obtain ⟨others, hlines, hothers⟩ := exists_linesOf_lines hstats hentries
    refine ⟨_, _, others, respond_of_stats hstats, hlines, rfl, ?_, hothers⟩
    simp only [List.length_flatMap, length_stats]

/-- Settings with strictness. -/
def reportingSettings : AnswerSettings := ⟨"", 2000, true⟩

/-- A message with two statistics: one skips a clause, the other fails. -/
def twoSpans : String := "#[[count:id,oops]] and #[[max:nope]]"

theorem stats_line_by_line_twoSpans :
    OneLine reportingSettings.imageTemplate ∧ oneCardStore.NamesOneLine ∧
    Message.stats twoSpans = ["count:id,oops", "max:nope"] ∧ Message.lookups twoSpans = [] ∧
    ∃ response, respond oneCardStore reportingSettings twoSpans = some response ∧
      (Text.linesOf response).length = 3 := by
  have htemplate : OneLine reportingSettings.imageTemplate := by decide
  have hnames : oneCardStore.NamesOneLine := by
    intro tables htables
    obtain rfl := Option.some.inj htables
    decide +kernel
  have hstats : Message.stats twoSpans = ["count:id,oops", "max:nope"] := by cbv
  have hlookups : Message.lookups twoSpans = [] := by cbv
  have hcounts : (["count:id,oops", "max:nope"].map fun interior =>
      (reported reportingSettings (Match.ofText interior)).length +
        (Match.ofText interior).requests.length).sum = 3 := by
    decide +kernel
  obtain ⟨response, entries, others, hrespond, hlines, -, hlength, hothers⟩ :=
    (stats_line_by_line htemplate hnames).2 twoSpans (by simp [hstats])
      (by rw [hstats]; decide +kernel)
  rw [hstats, hcounts] at hlength
  refine ⟨htemplate, hnames, hstats, hlookups, response, hrespond, ?_⟩
  rw [hlines, hothers hlookups, List.append_nil, hlength]

/-- A column of two lines is answered on two lines. -/
theorem stats_breaks_line : OneLine lenientSettings.imageTemplate ∧ Store.NamesOneLine {} ∧
    ∃ line ∈ stats {} lenientSettings "count:a\nb", ¬ OneLine line := by
  have hstats : stats {} lenientSettings "count:a\nb" =
      ["Count a\nb: failed (invalid column name 'a\nb')"] := by
    decide +kernel
  have hbroken : ¬ OneLine "Count a\nb: failed (invalid column name 'a\nb')" := by decide +kernel
  refine ⟨by decide, nofun, _, ?_, hbroken⟩
  rw [hstats]
  exact List.mem_singleton_self _

end Answer

end CardCensus
