import CardCensus.Proofs.Plan.Congruence
import CardCensus.Proofs.Store.Rearranged

/-!
# The case of a match text

Seven comparisons decide what a match text asks for: those of fields and verbs, of tags, of colour
words and colour letters, of set codes, of names and of parts of type lines. None of them sees the
case of an ASCII letter. A folded text has a plan with the same joins, whose tests a row passes
exactly when it passes those of the text.

Results:
* `passesAll_fieldTests_folded`: the tests of a field, whatever its terms are.
* `retained_folded`: a folded text retains what the text retains, row by row.
* `retained_eq_of_fold_eq`: texts that differ in case only.
-/

namespace CardCensus

namespace Plan

/-! ## Joins -/

theorem colorTests_folded (relation : Relation) (negated : Bool) (terms : List String) :
    colorTests relation negated (terms.map Text.folded) = colorTests relation negated terms := by
  simp only [colorTests, List.filterMap_map, Function.comp_def, ColorMask.ofTerm?_folded]

theorem tagTests_folded (axis : Axis) (negated : Bool) (terms : List String) :
    tagTests axis negated (terms.map Text.folded) = tagTests axis negated terms := by
  simp only [tagTests, List.filterMap_map, Function.comp_def, Tag.ofTerm?_folded]

theorem map_uppercased_folded (terms : List String) :
    (terms.map Text.folded).map Text.uppercased = terms.map Text.uppercased := by
  rw [List.map_map]
  exact List.map_congr_left fun term _ => Text.uppercased_folded term

theorem maskTests_folded (relation : Relation) (terms : List String) :
    maskTests relation (Negation.positives (terms.map Text.folded))
      (Negation.negatives (terms.map Text.folded)) =
      maskTests relation (Negation.positives terms) (Negation.negatives terms) := by
  rw [Negation.positives_folded, Negation.negatives_folded, maskTests, colorTests_folded,
    colorTests_folded,
    maskTests]

theorem fieldRelation?_folded (field : Field) (terms : List String) :
    fieldRelation? field (terms.map Text.folded) = fieldRelation? field terms := by
  cases field with
  | color | colorIdentity =>
    exact if_congr (Eq.to_iff (congrArg (·.isEmpty = true) (maskTests_folded _ terms))) rfl rfl
  | name | set | type | supertype | rarity | subtype | unknown _ => rfl

/-- What is joined depends on what is joined already, and not on the tests. -/
theorem joins_join_congr {plan other : Plan} (h : plan.joins = other.joins) (relation : Relation) :
    (plan.join relation).joins = (other.join relation).joins := by
  unfold join
  rw [h]
  split
  · exact h
  · rfl

theorem joins_withFields_folded {plan other : Plan} (h : plan.joins = other.joins)
    (fields : List (Field × List String)) :
    (plan.withFields (fields.map Query.foldEntry)).joins = (other.withFields fields).joins := by
  induction fields generalizing plan other with
  | nil => exact h
  | cons entry rest ih =>
    apply ih
    rw [joins_withField, joins_withField]
    simp only [Query.foldEntry, fieldRelation?_folded]
    cases fieldRelation? entry.1 entry.2 with
    | none => exact h
    | some relation => exact joins_join_congr h relation

theorem joins_ofQuery_folded (text : String) :
    (ofQuery (Match.ofText (Text.folded text)).query).joins =
      (ofQuery (Match.ofText text).query).joins := by
  rw [ofQuery_eq_withFields_known, ofQuery_eq_withFields_known, Match.known_folded]
  exact joins_withFields_folded rfl _

end Plan

namespace Store

variable {tables : Tables} {row : JoinedRow}

/-! ## Tests -/

theorem stored_same_folded (text value : String) :
    Text.Comparison.stored.same text (Text.folded value) ↔
      Text.Comparison.stored.same text value := by
  have hsize : (Text.folded value).utf8ByteSize = value.utf8ByteSize :=
    Text.utf8ByteSize_eq_of_fold_eq (by rw [Text.toList_folded, Text.fold_fold])
  have hpart : Text.fold (Text.untilNul (Text.folded value).toList) =
      Text.fold (Text.untilNul value.toList) := by
    rw [Text.toList_folded, Text.untilNul_fold, Text.fold_fold]
  show _ ∧ _ ↔ _ ∧ _
  rw [hsize, hpart]

theorem stored_holds_folded (text needle : String) :
    Text.Comparison.stored.holds text (Text.folded needle) ↔
      Text.Comparison.stored.holds text needle := by
  have hnul : '\x00' ∈ Text.fold (Text.asRead needle).toList ↔
      '\x00' ∈ (Text.asRead needle).toList :=
    Text.nul_mem_fold_iff
  simp only [Text.Comparison.stored, Text.HoldsUpToNul, Text.asRead_folded, Text.toList_folded,
    hnul,
    Text.untilNul_fold, Text.fold_fold]

/-- Choices that ask for the same in their own ways come out alike. -/
theorem forall_not_and_exists_folded {holds : String → Prop}
    (hholds : ∀ value, holds (Text.folded value) ↔ holds value) (included excluded : List String) :
    ((∀ value ∈ excluded.map Text.folded, ¬ holds value) ∧
        (included.map Text.folded ≠ [] → ∃ value ∈ included.map Text.folded, holds value)) ↔
      (∀ value ∈ excluded, ¬ holds value) ∧ (included ≠ [] → ∃ value ∈ included, holds value) := by
  simp [hholds]

/-- **Step.** A row passes the tests of a field for folded terms exactly when it passes those for
    the terms. -/
theorem passesAll_fieldTests_folded (field : Field) (terms : List String) :
    PassesAll tables row (Plan.fieldTests field (terms.map Text.folded)) ↔
      PassesAll tables row (Plan.fieldTests field terms) := by
  cases field with
  | name =>
    have htests : ∀ terms, PassesAll tables row (Plan.fieldTests .name terms) ↔ _ := fun terms =>
      @passes_nameTests_iff tables row .cardName row.card.name rfl (Negation.positives terms)
        (Negation.negatives terms)
    rw [htests, htests, Negation.positives_folded, Negation.negatives_folded]
    exact forall_not_and_exists_folded (stored_same_folded _) _ _
  | subtype =>
    have htests : ∀ terms, PassesAll tables row (Plan.fieldTests .subtype terms) ↔ _ := fun terms =>
      @passes_subtypeTests_iff tables row (Negation.positives terms) (Negation.negatives terms)
    rw [htests, htests, Negation.positives_folded, Negation.negatives_folded,
      Clause.filter_filled_folded,
      Clause.filter_filled_folded]
    exact forall_not_and_exists_folded (stored_holds_folded _) _ _
  | set =>
    simp only [Plan.fieldTests, Negation.positives_folded, Negation.negatives_folded,
      Plan.map_uppercased_folded]
  | color | colorIdentity =>
    simp only [Plan.fieldTests, Plan.maskTests_folded]
  | type | supertype | rarity =>
    simp only [Plan.fieldTests, Negation.positives_folded, Negation.negatives_folded,
      Plan.tagTests_folded]
  | unknown word => exact Iff.rfl

/-- **Run.** A row passes the tests of a folded text exactly when it passes those of the text. -/
theorem passesAll_ofQuery_folded (text : String) :
    PassesAll tables row (Plan.ofQuery (Match.ofText (Text.folded text)).query).predicates ↔
      PassesAll tables row (Plan.ofQuery (Match.ofText text).query).predicates := by
  have hfields : ∀ fields : List (Field × List String),
      PassesAll tables row (Plan.withFields {} fields).predicates ↔
        ∀ entry ∈ fields, PassesAll tables row (Plan.fieldTests entry.1 entry.2) := by
    intro fields
    rw [Plan.predicates_withFields]
    exact List.forall_mem_flatMap
  rw [Plan.ofQuery_eq_withFields_known, Plan.ofQuery_eq_withFields_known, Match.known_folded,
    hfields, hfields,
    List.forall_mem_map]
  exact forall₂_congr fun entry _ => passesAll_fieldTests_folded entry.1 entry.2

/-! ## What is retained -/

/-- A folded text retains what the text retains, row by row. -/
theorem retained_folded (tables : Tables) (text : String) :
    tables.retained (Plan.ofQuery (Match.ofText (Text.folded text)).query) =
      tables.retained (Plan.ofQuery (Match.ofText text).query) := by
  have hjoined : tables.joined (Plan.ofQuery (Match.ofText (Text.folded text)).query) =
      tables.joined (Plan.ofQuery (Match.ofText text).query) := by
    rw [Tables.joined, Plan.joins_ofQuery_folded, Tables.joined]
  rw [Tables.retained, hjoined, Tables.retained]
  apply List.filter_congr
  intro row _
  have hpasses := @passesAll_ofQuery_folded tables row text
  simp only [PassesAll, ← List.all_eq_true, ← Bool.eq_iff_iff] at hpasses
  rw [hpasses]

/-- **Main theorem.** Two match texts that differ only in the case of ASCII letters retain the same
    rows of any tables, in the same order. They make the same requests, with the same verbs, up to
    the case of the columns. -/
theorem retained_eq_of_fold_eq {text other : String}
    (h : Text.fold text.toList = Text.fold other.toList) :
    (∀ tables : Tables, tables.retained (Plan.ofQuery (Match.ofText text).query) =
      tables.retained (Plan.ofQuery (Match.ofText other).query)) ∧
    List.Forall₂ (fun request request' : Request => request.verb = request'.verb ∧
        Text.sameFolded request.column request'.column = true)
      (Match.ofText text).requests (Match.ofText other).requests := by
  have hfolded : Text.folded text = Text.folded other := Text.folded_eq_iff.mpr h
  constructor
  · intro tables
    rw [← retained_folded, hfolded, retained_folded]
  · have hrequests : (Match.ofText text).requests.map Request.folded =
        (Match.ofText other).requests.map Request.folded := by
      rw [← Match.requests_folded, hfolded, Match.requests_folded]
    have hsame : ∀ request request' : Request, request.folded = request'.folded →
        request.verb = request'.verb ∧ Text.sameFolded request.column request'.column = true := by
      intro request request' heq
      obtain ⟨hverb, hcolumn⟩ := Request.mk.inj heq
      exact ⟨hverb, Text.sameFolded_iff.mpr (Text.folded_eq_iff.mp hcolumn)⟩
    rw [← List.forall₂_eq_eq_eq, List.forall₂_map_left_iff, List.forall₂_map_right_iff] at hrequests
    exact hrequests.imp hsame

/-- Filters of several kinds, an unknown field in two spellings, and a request. -/
def shoutedText : String :=
  "NAME:EMBER|!Frost,Set:lEA|ſT,COLOR:!CoLorless,Flavor:X,FLAVOR:y,Types:CREATURES,SubType:cAT," ++
    "MAX:Power"

/-- The same text in another case. -/
def whisperedText : String :=
  "name:ember|!fROST,seT:Lea|ſt,color:!cOlOrLeSs,flavor:x,flavor:Y,types:creatures,subtype:Cat," ++
    "max:pOWER"

/-- A store with a creature of two colours. -/
def emberTables : Tables :=
  ({} : Tables).addPrinting "LEA" twoColored

theorem retained_eq_of_fold_eq_shouted :
    Text.fold shoutedText.toList = Text.fold whisperedText.toList ∧
      (emberTables.retained (Plan.ofQuery (Match.ofText whisperedText).query)).map (·.number) =
        [1] ∧
      (emberTables.retained (Plan.ofQuery (Match.ofText shoutedText).query)).map (·.number) = [1] ∧
      (Match.ofText shoutedText).requests.length =
        (Match.ofText whisperedText).requests.length := by
  have hfold : Text.fold shoutedText.toList = Text.fold whisperedText.toList := by decide +kernel
  have hretained :
      (emberTables.retained (Plan.ofQuery (Match.ofText whisperedText).query)).map (·.number) =
        [1] := by
    decide +kernel
  obtain ⟨hsame, hrequests⟩ := retained_eq_of_fold_eq hfold
  exact ⟨hfold, hretained, by rw [hsame, hretained], hrequests.length_eq⟩

end Store

end CardCensus
