import CardCensus.Proofs.Plan.Fields
import CardCensus.Proofs.Query.Order

/-!
# The relations of a rearranged query

A plan joins each relation once, and it joins those that the tests of some field read. Terms in
another order are tests in another order, so a query with the same terms joins the same relations.

Results:
* `joins_withField`: a field joins the relation that its tests read, and no other.
* `joins_ofQuery_perm`: queries with the same terms join the same relations.
-/

namespace CardCensus.Plan

/-! ## What a field joins -/

theorem isEmpty_choiceTests (included excluded : List Predicate) :
    (choiceTests included excluded).isEmpty = (included.isEmpty && excluded.isEmpty) := by
  match included with
  | [] | [_] | _ :: _ :: _ => cases excluded <;> rfl

/-- Colours are joined where there is a test of them. -/
theorem joins_withColors (plan : Plan) (relation : Relation) (positives negatives : List String) :
    (plan.withColors relation positives negatives).joins =
      match if (maskTests relation positives negatives).isEmpty then none else some relation with
        | none => plan.joins
        | some joined => (plan.join joined).joins := by
  rw [withColors, maskTests, isEmpty_choiceTests]
  cases (colorTests relation false positives).isEmpty &&
    (colorTests relation true negatives).isEmpty with
  | true => rfl
  | false =>
    rw [if_neg Bool.false_ne_true, withTests_eq]
    rfl

/-- **Step.** A field joins the relation that its tests read, and no other. -/
theorem joins_withField (plan : Plan) (field : Field) (terms : List String) :
    (plan.withField field terms).joins = match fieldRelation? field terms with
      | none => plan.joins
      | some relation => (plan.join relation).joins := by
  cases field with
  | name | set => simp only [withField, withNames_eq, fieldRelation?]
  | color | colorIdentity => exact joins_withColors plan _ _ _
  | type | supertype | rarity => simp only [withField, withTags, withTests_eq, fieldRelation?]
  | subtype => simp only [withField, withSubtypes, withTests_eq, fieldRelation?]
  | unknown word => rfl

/-- The cards are there already, so no field joins them. -/
theorem fieldRelation?_ne_base {field : Field} {terms : List String} {relation : Relation}
    (h : fieldRelation? field terms = some relation) : relation ≠ base := by
  cases field with
  | set =>
    cases h
    decide
  | color | colorIdentity =>
    rw [fieldRelation?] at h
    split at h
    · cases h
    · cases h
      decide
  | name | type | supertype | rarity | subtype | unknown _ => cases h

/-! ## What a query joins -/

theorem mem_joins_join_iff {plan : Plan} {relation other : Relation} (h : relation ≠ base) :
    other ∈ (plan.join relation).joins ↔ other ∈ plan.joins ∨ relation = other := by
  unfold join
  split
  · rename_i hthere
    have hmem := hthere.resolve_left h
    constructor
    · exact Or.inl
    · rintro (hmem | rfl) <;> assumption
  · rw [List.mem_append, List.mem_singleton, eq_comm (a := other)]

theorem mem_joins_withField_iff {plan : Plan} {field : Field} {terms : List String}
    {other : Relation} :
    other ∈ (plan.withField field terms).joins ↔
      other ∈ plan.joins ∨ fieldRelation? field terms = some other := by
  rw [joins_withField]
  cases hrelation : fieldRelation? field terms with
  | none => simp
  | some relation =>
    simp only [mem_joins_join_iff (fieldRelation?_ne_base hrelation), Option.some_inj]

/-- **Run.** A query joins what one of its fields joins. -/
theorem mem_joins_withFields_iff {plan : Plan} {fields : List (Field × List String)}
    {other : Relation} :
    other ∈ (plan.withFields fields).joins ↔
      other ∈ plan.joins ∨ ∃ entry ∈ fields, fieldRelation? entry.1 entry.2 = some other := by
  induction fields generalizing plan with
  | nil => simp [withFields]
  | cons entry rest ih =>
    change other ∈ ((plan.withField entry.1 entry.2).withFields rest).joins ↔ _
    rw [ih, mem_joins_withField_iff, or_assoc, List.exists_mem_cons_iff]

theorem nodup_joins_withFields {plan : Plan} (h : plan.joins.Nodup)
    (fields : List (Field × List String)) :
    (plan.withFields fields).joins.Nodup := by
  induction fields generalizing plan with
  | nil => exact h
  | cons entry rest ih =>
    apply ih
    rw [joins_withField]
    cases fieldRelation? entry.1 entry.2 with
    | none => exact h
    | some relation => exact join_joins_nodup h relation

/-! ## Terms in another order -/

variable {terms others : List String}

theorem positives_perm (h : terms.Perm others) :
    (Negation.positives terms).Perm (Negation.positives others) :=
  h.filter _

theorem negatives_perm (h : terms.Perm others) :
    (Negation.negatives terms).Perm (Negation.negatives others) :=
  h.filterMap _

theorem colorTests_perm (h : terms.Perm others) (relation : Relation) (negated : Bool) :
    (colorTests relation negated terms).Perm (colorTests relation negated others) :=
  (h.filterMap _).map _

theorem tagTests_perm (h : terms.Perm others) (axis : Axis) (negated : Bool) :
    (tagTests axis negated terms).Perm (tagTests axis negated others) :=
  (h.filterMap _).map _

theorem subtypeTests_perm (h : terms.Perm others) (negated : Bool) :
    (subtypeTests negated terms).Perm (subtypeTests negated others) :=
  (h.filter _).map _

theorem isEmpty_maskTests_perm (h : terms.Perm others) (relation : Relation) :
    (maskTests relation (Negation.positives terms) (Negation.negatives terms)).isEmpty =
      (maskTests relation (Negation.positives others) (Negation.negatives others)).isEmpty := by
  rw [maskTests, maskTests, isEmpty_choiceTests, isEmpty_choiceTests,
    (colorTests_perm (positives_perm h) relation false).isEmpty_eq,
    (colorTests_perm (negatives_perm h) relation true).isEmpty_eq]

theorem fieldRelation?_perm (h : terms.Perm others) (field : Field) :
    fieldRelation? field terms = fieldRelation? field others := by
  cases field with
  | color | colorIdentity =>
    exact if_congr (Eq.to_iff (congrArg (· = true) (isEmpty_maskTests_perm h _))) rfl rfl
  | name | set | type | supertype | rarity | subtype | unknown _ => rfl

/-- Queries with the same terms join the same relations. -/
theorem joins_ofQuery_perm {first second : Query} (h : first.SameTerms second) :
    (ofQuery first).joins.Perm (ofQuery second).joins := by
  have hmem : ∀ {a b : Query}, a.SameTerms b → ∀ {relation},
      relation ∈ (ofQuery a).joins → relation ∈ (ofQuery b).joins := by
    intro a b h relation hrelation
    obtain hstart | ⟨entry, hentry, hfield⟩ := mem_joins_withFields_iff.mp hrelation
    · cases hstart
    · obtain ⟨terms, hterms, hperm⟩ := h.left entry hentry
      rw [fieldRelation?_perm hperm] at hfield
      exact mem_joins_withFields_iff.mpr (Or.inr ⟨_, hterms, hfield⟩)
  have hnodup : ∀ query : Query, (ofQuery query).joins.Nodup := fun query =>
    nodup_joins_withFields List.nodup_nil query.fields
  rw [List.perm_ext_iff_of_nodup (hnodup first) (hnodup second)]
  exact fun _ => ⟨hmem h, hmem h.symm⟩

end CardCensus.Plan
