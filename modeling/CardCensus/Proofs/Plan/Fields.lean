import CardCensus.Plan.Compiled

/-!
# What each field adds to a plan

A plan grows field by field. Each field adds its own tests behind those that are there, whatever
they are, and joins the relation that its tests read.

Results:
* `predicates_ofQuery`: the tests of a query are those of its fields, in order.
* `mem_joins_ofQuery`: what a field needs is joined in the end.
-/

namespace CardCensus

/-- The field whose terms stand for the tags of an axis. -/
def Axis.field : Axis → Field
  | .type => .type
  | .supertype => .supertype
  | .rarity => .rarity

namespace Plan

/-! ## The tests of a field -/

/-- One of the names, and none of the others. -/
def nameTests (column : Column) (positives negatives : List String) : List Predicate :=
  (if positives.isEmpty then [] else [.oneOf column positives false]) ++
    if negatives.isEmpty then [] else [.oneOf column negatives true]

/-- One of the included tests, and each of the excluded ones. -/
def choiceTests (included excluded : List Predicate) : List Predicate :=
  (Predicate.disjunction included).toList ++ excluded

/-- The tests for the masks among the terms. -/
def maskTests (relation : Relation) (positives negatives : List String) : List Predicate :=
  choiceTests (colorTests relation false positives) (colorTests relation true negatives)

/-- The tests that a field adds. -/
def fieldTests (field : Field) (terms : List String) : List Predicate :=
  let positives := Negation.positives terms
  let negatives := Negation.negatives terms
  match field with
  | .name => nameTests .cardName positives negatives
  | .set => nameTests .setCode (positives.map Text.uppercased) (negatives.map Text.uppercased)
  | .color => maskTests .color positives negatives
  | .colorIdentity => maskTests .colorIdentity positives negatives
  | .type => choiceTests (tagTests .type false positives) (tagTests .type true negatives)
  | .supertype =>
    choiceTests (tagTests .supertype false positives) (tagTests .supertype true negatives)
  | .rarity => choiceTests (tagTests .rarity false positives) (tagTests .rarity true negatives)
  | .subtype => choiceTests (subtypeTests false positives) (subtypeTests true negatives)
  | .unknown _ => []

/-- The relation that a field joins, which its tests read besides the cards. Colours are joined only
    where there is a test of them. -/
def fieldRelation? (field : Field) (terms : List String) : Option Relation :=
  match field with
  | .set => some .setMembership
  | .color => if (fieldTests .color terms).isEmpty then none else some .color
  | .colorIdentity =>
    if (fieldTests .colorIdentity terms).isEmpty then none else some .colorIdentity
  | _ => none

theorem mem_fieldRelation?_color {terms : List String} (h : fieldTests .color terms ≠ []) :
    .color ∈ fieldRelation? .color terms := by
  rw [fieldRelation?, if_neg (mt List.isEmpty_iff.mp h)]
  exact Option.mem_some_self _

theorem mem_fieldRelation?_colorIdentity {terms : List String}
    (h : fieldTests .colorIdentity terms ≠ []) :
    .colorIdentity ∈ fieldRelation? .colorIdentity terms := by
  rw [fieldRelation?, if_neg (mt List.isEmpty_iff.mp h)]
  exact Option.mem_some_self _

theorem maskTests_ne_nil {relation : Relation} {positives negatives : List String}
    {mask : ColorMask}
    (h : mask ∈ positives.filterMap ColorMask.ofTerm? ∨
      mask ∈ negatives.filterMap ColorMask.ofTerm?) :
    maskTests relation positives negatives ≠ [] := by
  intro hnil
  obtain ⟨hincluded, hexcluded⟩ := List.append_eq_nil_iff.mp hnil
  rcases h with h | h
  · match hmasks : positives.filterMap ColorMask.ofTerm? with
    | [] =>
      rw [hmasks] at h
      cases h
    | [_] =>
      rw [colorTests, hmasks] at hincluded
      cases hincluded
    | _ :: _ :: _ =>
      rw [colorTests, hmasks] at hincluded
      cases hincluded
  · rw [colorTests, List.map_eq_nil_iff] at hexcluded
    rw [hexcluded] at h
    cases h

/-! ## Growing a plan -/

@[simp] theorem predicates_join (plan : Plan) (relation : Relation) :
    (plan.join relation).predicates = plan.predicates := by
  unfold join
  split <;> rfl

theorem joins_subset_join (plan : Plan) (relation : Relation) :
    plan.joins ⊆ (plan.join relation).joins := by
  unfold join
  split
  · exact fun _ h => h
  · exact List.subset_append_left _ _

theorem withNames_eq (plan : Plan) (column : Column) (positives negatives : List String) :
    plan.withNames column positives negatives =
      { plan with predicates := plan.predicates ++ nameTests column positives negatives } := by
  unfold withNames nameTests filter
  cases positives.isEmpty <;> cases negatives.isEmpty <;> simp

theorem withTests_eq (plan : Plan) (included excluded : List Predicate) :
    plan.withTests included excluded =
      { plan with predicates := plan.predicates ++ choiceTests included excluded } := by
  rw [withTests, filterAll_eq, filterAll_eq, choiceTests, ← List.append_assoc]

theorem predicates_withColors (plan : Plan) (relation : Relation)
    (positives negatives : List String) :
    (plan.withColors relation positives negatives).predicates =
      plan.predicates ++ maskTests relation positives negatives := by
  simp only [withColors]
  split
  · rename_i hnone
    rw [Bool.and_eq_true, List.isEmpty_iff, List.isEmpty_iff] at hnone
    rw [maskTests, hnone.1, hnone.2]
    exact (List.append_nil _).symm
  · rw [withTests_eq, predicates_join]
    rfl

/-- **Step.** A field adds its tests behind those that are there. -/
theorem predicates_withField (plan : Plan) (field : Field) (terms : List String) :
    (plan.withField field terms).predicates = plan.predicates ++ fieldTests field terms := by
  cases field with
  | name => exact congrArg predicates (withNames_eq _ _ _ _)
  | set =>
    refine (congrArg predicates (withNames_eq _ _ _ _)).trans ?_
    rw [predicates_join]
    rfl
  | color | colorIdentity => exact predicates_withColors _ _ _ _
  | type | supertype | rarity | subtype => exact congrArg predicates (withTests_eq _ _ _)
  | unknown word => exact (List.append_nil _).symm

theorem joins_subset_withColors (plan : Plan) (relation : Relation)
    (positives negatives : List String) :
    plan.joins ⊆ (plan.withColors relation positives negatives).joins := by
  simp only [withColors]
  split
  · exact List.Subset.refl _
  · rw [withTests_eq]
    exact joins_subset_join plan relation

theorem mem_joins_withColors {plan : Plan} {relation : Relation} {positives negatives : List String}
    (hrelation : relation ≠ base) (h : maskTests relation positives negatives ≠ []) :
    relation ∈ (plan.withColors relation positives negatives).joins := by
  simp only [withColors]
  split
  · rename_i hnone
    rw [Bool.and_eq_true, List.isEmpty_iff, List.isEmpty_iff] at hnone
    rw [maskTests, hnone.1, hnone.2] at h
    exact absurd rfl h
  · rw [withTests_eq]
    exact (mem_joins_join plan relation).resolve_left hrelation

/-- A field takes no join away. -/
theorem joins_subset_withField (plan : Plan) (field : Field) (terms : List String) :
    plan.joins ⊆ (plan.withField field terms).joins := by
  cases field with
  | name =>
    simp only [withField, withNames_eq]
    exact List.Subset.refl _
  | set =>
    simp only [withField, withNames_eq]
    exact joins_subset_join plan .setMembership
  | color | colorIdentity => exact joins_subset_withColors _ _ _ _
  | type | supertype | rarity =>
    simp only [withField, withTags, withTests_eq]
    exact List.Subset.refl _
  | subtype =>
    simp only [withField, withSubtypes, withTests_eq]
    exact List.Subset.refl _
  | unknown word => exact List.Subset.refl _

theorem mem_joins_withField {plan : Plan} {field : Field} {terms : List String}
    {relation : Relation}
    (hrelation : relation ∈ fieldRelation? field terms) :
    relation ∈ (plan.withField field terms).joins := by
  have hmasks : ∀ {other : Relation} {tests : List Predicate},
      relation ∈ (if tests.isEmpty then none else some other) → other = relation ∧ tests ≠ [] := by
    intro other tests h
    split at h
    · cases h
    · rename_i hne
      exact ⟨Option.some.inj h, fun hnil => hne (List.isEmpty_iff.mpr hnil)⟩
  cases field with
  | set =>
    cases hrelation
    simp only [withField, withNames_eq]
    exact (mem_joins_join plan .setMembership).resolve_left (by decide)
  | color | colorIdentity =>
    obtain ⟨rfl, htests⟩ := hmasks hrelation
    exact mem_joins_withColors (by decide) htests
  | name | type | supertype | rarity | subtype | unknown _ => cases hrelation

/-! ## The plan of a query -/

/-- The fields of a query are added one after the other. -/
def withFields (plan : Plan) (fields : List (Field × List String)) : Plan :=
  fields.foldl (fun plan (field, terms) => plan.withField field terms) plan

theorem predicates_withFields (plan : Plan) (fields : List (Field × List String)) :
    (plan.withFields fields).predicates =
      plan.predicates ++ fields.flatMap fun (field, terms) => fieldTests field terms := by
  induction fields generalizing plan with
  | nil => exact (List.append_nil _).symm
  | cons entry rest ih =>
    show ((plan.withField entry.1 entry.2).withFields rest).predicates = _
    rw [ih, predicates_withField, List.flatMap_cons, List.append_assoc]

theorem joins_subset_withFields (plan : Plan) (fields : List (Field × List String)) :
    plan.joins ⊆ (plan.withFields fields).joins := by
  induction fields generalizing plan with
  | nil => exact List.Subset.refl _
  | cons entry rest ih =>
    exact List.Subset.trans (joins_subset_withField plan entry.1 entry.2) (ih _)

theorem mem_joins_withFields {plan : Plan} {fields : List (Field × List String)} {field : Field}
    {terms : List String} {relation : Relation} (hmem : (field, terms) ∈ fields)
    (hrelation : relation ∈ fieldRelation? field terms) :
    relation ∈ (plan.withFields fields).joins := by
  induction fields generalizing plan with
  | nil => cases hmem
  | cons entry rest ih =>
    rcases List.mem_cons.mp hmem with rfl | hmem
    · exact joins_subset_withFields _ rest (mem_joins_withField hrelation)
    · exact ih hmem

/-- **Run.** The tests of a query are those of its fields, in order. -/
theorem predicates_ofQuery (query : Query) : (ofQuery query).predicates =
    query.fields.flatMap fun (field, terms) => fieldTests field terms :=
  (predicates_withFields {} query.fields).trans (List.nil_append _)

/-- **Run.** What the tests of a field read is joined in the end. -/
theorem mem_joins_ofQuery {query : Query} {field : Field} {terms : List String}
    {relation : Relation}
    (hmem : (field, terms) ∈ query.fields) (hrelation : relation ∈ fieldRelation? field terms) :
    relation ∈ (ofQuery query).joins :=
  mem_joins_withFields hmem hrelation

end Plan

end CardCensus
