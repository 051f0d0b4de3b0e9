import CardCensus.Proofs.Lookup.Expression
import CardCensus.Proofs.Store.Contents
import CardCensus.Proofs.Text.Comparison
import CardCensus.Proofs.Text.Tokens

/-!
# The candidates of a lookup

While ids are distinct, each printing has one entry in the word index and lies in one set, so the
candidates of a lookup are the printings that pass its tests, each once. A card with the requested
name, in any case, passes the test of the words, and such a candidate is shown before all others.

Results:
* `nameMatches_of_fold_eq`: a card is found under its own name, in any case.
* `candidates_eq`: the candidates are the printings that pass the tests.
* `lookup_of_named`: a lookup with a candidate of the requested name shows a candidate of that name.
-/

namespace CardCensus.Lookup

open Store

/-! ## Phrases -/

theorem holdsRun_iff {α : Type} [BEq α] [LawfulBEq α] {run items : List α} :
    holdsRun run items = true ↔ run <:+: items := by
  induction items with
  | nil => rw [holdsRun, List.isEmpty_iff, List.infix_nil]
  | cons item rest ih =>
    rw [holdsRun, Bool.or_eq_true, List.isPrefixOf_iff_prefix, ih, List.infix_cons_iff]

/-- A card is found under its own name, in any case, if the name has a character that words are made
    of. -/
theorem nameMatches_of_fold_eq {name other : String}
    (h : Text.fold other.toList = Text.fold name.toList)
    (hsearchable : ∃ c ∈ name.toList, Text.isTokenChar c = true) :
    nameMatches (phrases (Text.words name.toList)) other = true := by
  have hterms : Text.terms other.toList = (Text.words name.toList).flatMap Text.terms := by
    rw [Text.terms_words, ← Text.terms_fold, h, Text.terms_fold]
  obtain ⟨word, hword, hne⟩ := Text.exists_word_terms_ne_nil hsearchable
  rw [nameMatches, Bool.and_eq_true, List.all_eq_true, hterms]
  constructor
  · have hphrase : Text.terms word ∈ phrases (Text.words name.toList) := by
      rw [phrases, List.mem_filter, Bool.not_eq_true', List.isEmpty_eq_false_iff]
      exact ⟨List.mem_map_of_mem hword, hne⟩
    rw [Bool.not_eq_true', List.isEmpty_eq_false_iff]
    exact List.ne_nil_of_mem hphrase
  · intro phrase hphrase
    rw [holdsRun_iff, List.flatMap_def]
    exact List.infix_of_mem_flatten (List.mem_filter.mp hphrase).1

/-! ## Candidates -/

variable {held : List Printing} {tables : Tables}

/-- The printing passes the tests of a lookup. -/
def IsCandidate (phrases : List (List (List UInt8))) (scope : SetScope) (printing : Printing) :
    Bool :=
  printing.card.multiverseId != 0 && nameMatches phrases printing.card.name &&
    admits scope printing.setCode

/-- What is shown of a printing. -/
def printed (printing : Printing) : FoundCard :=
  summary printing.row printing.setCode

theorem flatMap_ite_singleton {α β : Type} (test : α → Bool) (f : α → β) (items : List α) :
    (items.flatMap fun item => if test item then [f item] else []) = (items.filter test).map f := by
  induction items with
  | nil => rfl
  | cons item rest ih =>
    rw [List.flatMap_cons, List.filter_cons, ih]
    split <;> rfl

/-- Of the rows that printings give, the one of a printing, if it passes a test. -/
theorem filter_own_eq {α : Type} (rowOf : Printing → α) (key : α → String)
    (hkey : ∀ printing, key (rowOf printing) = printing.card.id)
    (hids : (held.map (·.card.id)).Nodup)
    {printing : Printing} (hp : printing ∈ held) (test : α → Bool) :
    (held.map rowOf).filter (fun row => key row == printing.card.id && test row) =
      if test (rowOf printing) then [rowOf printing] else [] := by
  have hboth : (held.map rowOf).filter (fun row => key row == printing.card.id && test row) =
      [rowOf printing].filter test := by
    rw [← filter_map_id_eq rowOf key hkey hids hp, List.filter_filter]
    exact List.filter_congr fun row _ => Bool.and_comm _ _
  rw [hboth, List.filter_cons, List.filter_nil]

/-- With distinct ids and the word index drawn up, the candidates are the printings that pass the
    tests. -/
theorem candidates_eq (h : Tables.Hold held tables)
    (hnames : tables.names = .ofEntries (tables.cards.entries.map Tables.nameRow))
    (hids : (held.map (·.card.id)).Nodup) (phrases : List (List (List UInt8))) (scope : SetScope) :
    candidates tables phrases scope = (held.filter (IsCandidate phrases scope)).map printed := by
  have hcards : tables.cards.entries = held.map Printing.row := by
    rw [h.cards, Table.entries_ofEntries]
  have hindex : tables.names.entries = held.map fun printing => Tables.nameRow printing.row := by
    rw [hnames, Table.entries_ofEntries, hcards, List.map_map]
    rfl
  have hmemberships : tables.memberships.entries = held.map Printing.membership := by
    rw [h.memberships, Table.entries_ofEntries]
  rw [← flatMap_ite_singleton, candidates, hcards, List.flatMap_map]
  apply List.flatMap_congr
  intro printing hp
  have hindexed : (tables.names.entries.filter fun row =>
      row.id == printing.row.id && nameMatches phrases row.name) =
      if nameMatches phrases printing.card.name then [Tables.nameRow printing.row] else [] := by
    rw [hindex]
    exact filter_own_eq (fun printing => Tables.nameRow printing.row) NameRow.id (fun _ => rfl)
      hids hp _
  have hsets : (tables.memberships.entries.filter fun row =>
      row.id == printing.row.id && admits scope row.setCode) =
      if admits scope printing.setCode then [printing.membership] else [] := by
    rw [hmemberships]
    exact filter_own_eq Printing.membership MembershipRow.id (fun _ => rfl) hids hp _
  have hpictured : printing.row.multiverseId = printing.card.multiverseId := rfl
  simp only [hindexed, hsets, hpictured, IsCandidate]
  by_cases hzero : printing.card.multiverseId = 0
  · simp [hzero]
  · by_cases hmatches : nameMatches phrases printing.card.name = true <;>
      by_cases hadmits : admits scope printing.setCode = true <;>
      simp [hzero, hmatches, hadmits, printed, Printing.membership]

/-! ## The card that is shown -/

theorem pick_of_mem {name : String} {found : List FoundCard} {card : FoundCard} (h : card ∈ found)
    (hname : Text.sameFolded card.name name = true) :
    ∃ picked ∈ found, pick name found = some picked ∧ Text.sameFolded picked.name name = true := by
  cases hfind : found.find? fun card => Text.sameFolded card.name name with
  | none => exact absurd hname (List.find?_eq_none.mp hfind card h)
  | some picked =>
    have hpicked := List.find?_some hfind
    exact ⟨picked, List.mem_of_find?_eq_some hfind, by rw [pick, hfind], hpicked⟩

/-- What a lookup shows of a printing: under its own set, or with all sets of its name. -/
def shown (tables : Tables) (scope : SetScope) (printing : Printing) : FoundCard :=
  match scope with
  | .all => { printed printing with sets := joinedCodes (setCodes tables printing.card.name) }
  | .any | .code _ => printed printing

/-- A lookup by a name that words are made of shows a candidate of that name, if there is one. -/
theorem lookup_of_named {store : Store} (ht : store.tables = some tables)
    (h : Tables.Hold held tables)
    (hnames : tables.names = .ofEntries (tables.cards.entries.map Tables.nameRow))
    (hids : (held.map (·.card.id)).Nodup) {name : String} (hnul : Text.NulFree name)
    (hsearchable : ∃ c ∈ name.toList, Text.isTokenChar c = true) {scope : SetScope}
    {printing : Printing}
    (hp : printing ∈ held) (hpictured : printing.card.multiverseId ≠ 0)
    (hname : Text.sameFolded printing.card.name name = true)
    (hscope : admits scope printing.setCode = true) :
    ∃ other ∈ held, other.card.multiverseId ≠ 0 ∧ Text.sameFolded other.card.name name = true ∧
      admits scope other.setCode = true ∧ store.lookup ⟨name, scope⟩ =
        .ok (some (shown tables scope other)) := by
  have hcandidate : IsCandidate (phrases (Text.words name.toList)) scope printing = true := by
    rw [IsCandidate, nameMatches_of_fold_eq (Text.sameFolded_iff.mp hname) hsearchable, hscope]
    simpa using hpictured
  have hmem : printed printing ∈ candidates tables (phrases (Text.words name.toList)) scope := by
    rw [candidates_eq h hnames hids]
    exact List.mem_map_of_mem (List.mem_filter.mpr ⟨hp, hcandidate⟩)
  obtain ⟨picked, hpicked, hpick, hpickedname⟩ := pick_of_mem hmem hname
  rw [candidates_eq h hnames hids] at hpicked
  obtain ⟨other, hother, rfl⟩ := List.mem_map.mp hpicked
  obtain ⟨hheld, htests⟩ := List.mem_filter.mp hother
  rw [IsCandidate, Bool.and_eq_true, Bool.and_eq_true, bne_iff_ne] at htests
  refine ⟨other, hheld, htests.1.1, hpickedname, htests.2, ?_⟩
  have hwords : (expression name.toList).isEmpty = false := by
    obtain ⟨word, hword, -⟩ := Text.exists_word_terms_ne_nil hsearchable
    rw [List.isEmpty_eq_false_iff, ne_eq, expression_eq_nil_iff]
    exact List.ne_nil_of_mem hword
  have hfind : find tables ⟨name, scope⟩ = .ok (some (shown tables scope other)) := by
    simp only [find, quotedWords_expression hnul, bind, Except.bind, hpick]
    cases scope <;> rfl
  rw [Store.lookup, hwords, ht, if_neg Bool.false_ne_true]
  change (find tables ⟨name, scope⟩).mapError _ = _
  rw [hfind]
  rfl

end CardCensus.Lookup
