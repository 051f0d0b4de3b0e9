import CardCensus.Proofs.Plan.Order

/-!
# The scope of a plan

A test reads the columns of one relation, and the plan has to make that relation available: a
statement that names a relation without joining it is refused, and one that joins it twice is
another statement. Every field gives a plan the tests of one relation, and joins this relation where
there are any.

Results:
* `fieldTests_alike`: the tests of a field are of one kind and read one relation.
* `wellJoined_run`: no call makes a plan join a relation twice, or join the cards.
* `ofQuery_scoped`: the plan of a query joins what its tests read, in the order of the fields.
-/

namespace CardCensus

/-! ## Parts of a predicate -/

namespace Predicate

/-- The predicate stands somewhere in the other one. -/
inductive IsPart (part : Predicate) : Predicate → Prop
  | self : IsPart part part
  | within {predicate : Predicate} {predicates : List Predicate} :
      predicate ∈ predicates → IsPart part predicate → IsPart part (.anyOf predicates)

/-- What a predicate is, apart from its operands. -/
inductive Kind where
  | tagged
  | oneOf
  | contains
  | colorExact
  | anyOf
  deriving Repr, DecidableEq, Inhabited

/-- The kind of a predicate. -/
def kind : Predicate → Kind
  | .tagged .. => .tagged
  | .oneOf .. => .oneOf
  | .contains .. => .contains
  | .colorExact .. => .colorExact
  | .anyOf _ => .anyOf

/-- The relation that the predicate itself names; a tag is looked up by the card. -/
def relation? : Predicate → Option Relation
  | .tagged .. => some .cards
  | .oneOf column .. | .contains column .. => some column.relation
  | .colorExact relation .. => some relation
  | .anyOf _ => none

/-- The predicate is a negated one. -/
def isNegated : Predicate → Bool
  | .tagged _ negated | .oneOf _ _ negated | .contains _ _ negated | .colorExact _ _ negated =>
    negated
  | .anyOf _ => false

/-- There are several alternatives, all of one kind, and each is a plain test. -/
structure IsChoice (alternatives : List Predicate) : Prop where
  several : 2 ≤ alternatives.length
  plain : ∀ predicate ∈ alternatives, predicate.kind ≠ .anyOf ∧ predicate.isNegated = false
  alike : ∀ first ∈ alternatives, ∀ second ∈ alternatives, first.kind = second.kind

theorem eq_of_isPart {part predicate : Predicate} (hkind : predicate.kind ≠ .anyOf)
    (h : part.IsPart predicate) : part = predicate := by
  cases h with
  | self => rfl
  | within _ _ => exact absurd rfl hkind

end Predicate

namespace Plan

open Predicate

/-! ## Tests that are alike -/

/-- The tests are of one kind and name one relation, and all or none of them are negated. -/
def Alike (kind : Kind) (relation : Relation) (negated : Bool) (tests : List Predicate) : Prop :=
  ∀ test ∈ tests, test.kind = kind ∧ test.relation? = some relation ∧ test.isNegated = negated

theorem alike_colorTests (relation : Relation) (negated : Bool) (terms : List String) :
    Alike .colorExact relation negated (colorTests relation negated terms) := by
  intro test htest
  obtain ⟨mask, -, rfl⟩ := List.mem_map.mp htest
  exact ⟨rfl, rfl, rfl⟩

theorem alike_tagTests (axis : Axis) (negated : Bool) (terms : List String) :
    Alike .tagged .cards negated (tagTests axis negated terms) := by
  intro test htest
  obtain ⟨tag, -, rfl⟩ := List.mem_map.mp htest
  exact ⟨rfl, rfl, rfl⟩

theorem alike_subtypeTests (negated : Bool) (terms : List String) :
    Alike .contains .cards negated (subtypeTests negated terms) := by
  intro test htest
  obtain ⟨needle, -, rfl⟩ := List.mem_map.mp htest
  exact ⟨rfl, rfl, rfl⟩

/-- All the names of one sign in one test. -/
def namesTest (column : Column) (negated : Bool) (names : List String) : List Predicate :=
  if names.isEmpty then [] else [.oneOf column names negated]

theorem alike_namesTest (column : Column) (negated : Bool) (names : List String) :
    Alike .oneOf column.relation negated (namesTest column negated names) := by
  intro test htest
  unfold namesTest at htest
  split at htest
  · cases htest
  · rw [List.mem_singleton.mp htest]
    exact ⟨rfl, rfl, rfl⟩

/-- Names are a choice without alternatives. -/
theorem nameTests_eq_choiceTests (column : Column) (positives negatives : List String) :
    nameTests column positives negatives =
      choiceTests (namesTest column false positives) (namesTest column true negatives) := by
  unfold nameTests namesTest choiceTests
  cases positives.isEmpty <;> rfl

/-! ## The tests of a field -/

end Plan

/-- The relation that the tests of a field read besides the cards. -/
def Field.relation? : Field → Option Relation
  | .set => some .setMembership
  | .color => some .color
  | .colorIdentity => some .colorIdentity
  | _ => none

namespace Plan

open Predicate

/-- **Step.** The tests of a field are of one kind and read one relation: a choice of the plain
    ones, then the negated ones. -/
theorem fieldTests_alike (field : Field) (terms : List String) :
    ∃ kind included excluded, kind ≠ .anyOf ∧ fieldTests field terms =
      choiceTests included excluded ∧
      Alike kind (field.relation?.getD base) false included ∧
      Alike kind (field.relation?.getD base) true excluded := by
  cases field with
  | name | set =>
    exact ⟨.oneOf, _, _, by
      decide, nameTests_eq_choiceTests _ _ _, alike_namesTest _ _ _, alike_namesTest _ _ _⟩
  | color | colorIdentity =>
    exact ⟨.colorExact, _, _, by decide, rfl, alike_colorTests _ _ _, alike_colorTests _ _ _⟩
  | type | supertype | rarity =>
    exact ⟨.tagged, _, _, by decide, rfl, alike_tagTests _ _ _, alike_tagTests _ _ _⟩
  | subtype =>
    exact ⟨.contains, _, _, by decide, rfl, alike_subtypeTests _ _, alike_subtypeTests _ _⟩
  | unknown word => exact ⟨.tagged, [], [], by decide, rfl, nofun, nofun⟩

section

variable {kind : Kind} {relation : Relation} {included excluded : List Predicate}

/-- The choice itself is the only part of its tests that is not one of the given ones. -/
theorem mem_of_isPart_choiceTests (hkind : kind ≠ .anyOf)
    (hincluded : Alike kind relation false included)
    (hexcluded : Alike kind relation true excluded) {test part : Predicate}
    (htest : test ∈ choiceTests included excluded) (hpart : part.IsPart test) :
    part ∈ included ∨ part ∈ excluded ∨ part = .anyOf included ∧ 2 ≤ included.length := by
  have hplain : ∀ other ∈ included, part.IsPart other → part ∈ included := by
    intro other hother h
    rwa [eq_of_isPart ((hincluded other hother).1 ▸ hkind) h]
  rcases List.mem_append.mp htest with htest | htest
  · match included with
    | [] => cases htest
    | [other] =>
      cases List.mem_singleton.mp htest
      exact Or.inl (hplain _ (List.mem_singleton_self _) hpart)
    | first :: second :: rest =>
      cases List.mem_singleton.mp htest
      cases hpart with
      | self => exact Or.inr (Or.inr ⟨rfl, Nat.le_add_left _ _⟩)
      | within hother h => exact Or.inl (hplain _ hother h)
  · refine Or.inr (Or.inl ?_)
    rwa [eq_of_isPart ((hexcluded test htest).1 ▸ hkind) hpart]

/-- Each of the tests has a part that names the relation. -/
theorem exists_isPart_choiceTests (hincluded : Alike kind relation false included)
    (hexcluded : Alike kind relation true excluded) {test : Predicate}
    (htest : test ∈ choiceTests included excluded) :
    ∃ part : Predicate, part.IsPart test ∧ part.relation? = some relation := by
  rcases List.mem_append.mp htest with htest | htest
  · match included with
    | [] => cases htest
    | [other] =>
      cases List.mem_singleton.mp htest
      exact ⟨_, .self, (hincluded _ (List.mem_singleton_self _)).2.1⟩
    | first :: second :: rest =>
      cases List.mem_singleton.mp htest
      exact ⟨first, .within List.mem_cons_self .self, (hincluded first List.mem_cons_self).2.1⟩
  · exact ⟨test, .self, (hexcluded test htest).2.1⟩

end

variable {field : Field} {terms : List String} {test part : Predicate}

/-- The parts of a field's tests name the relation of the field. -/
theorem relation?_of_isPart (htest : test ∈ fieldTests field terms) (hpart : part.IsPart test)
    {relation : Relation} (h : part.relation? = some relation) :
    relation = field.relation?.getD base := by
  obtain ⟨kind, included, excluded, hkind, htests, hincluded, hexcluded⟩ :=
    fieldTests_alike field terms
  rw [htests] at htest
  obtain hmem | hmem | ⟨rfl, -⟩ := mem_of_isPart_choiceTests hkind hincluded hexcluded htest hpart
  · exact Option.some.inj (h.symm.trans (hincluded part hmem).2.1)
  · exact Option.some.inj (h.symm.trans (hexcluded part hmem).2.1)
  · cases h

theorem exists_isPart_fieldTests (htest : test ∈ fieldTests field terms) :
    ∃ part : Predicate, part.IsPart test ∧ part.relation? = some (field.relation?.getD base) := by
  obtain ⟨kind, included, excluded, -, htests, hincluded, hexcluded⟩ := fieldTests_alike field terms
  exact exists_isPart_choiceTests hincluded hexcluded (htests ▸ htest)

/-- A field asks for alternatives only where there are several, and never among themselves. -/
theorem isChoice_of_isPart (htest : test ∈ fieldTests field terms) {alternatives : List Predicate}
    (hpart : IsPart (.anyOf alternatives) test) : IsChoice alternatives := by
  obtain ⟨kind, included, excluded, hkind, htests, hincluded, hexcluded⟩ :=
    fieldTests_alike field terms
  rw [htests] at htest
  obtain hmem | hmem | ⟨hall, hlength⟩ :=
    mem_of_isPart_choiceTests hkind hincluded hexcluded htest hpart
  · exact absurd (hincluded _ hmem).1.symm hkind
  · exact absurd (hexcluded _ hmem).1.symm hkind
  · cases hall
    exact ⟨hlength, fun predicate h =>
      ⟨(hincluded predicate h).1 ▸ hkind, (hincluded predicate h).2.2⟩,
      fun first hfirst second hsecond => (hincluded first hfirst).1.trans
        (hincluded second hsecond).1.symm⟩

/-! ## The relation of a field -/

/-- A field that joins a relation joins its own. -/
theorem relation?_of_fieldRelation? {relation : Relation}
    (h : fieldRelation? field terms = some relation) :
    field.relation? = some relation := by
  cases field with
  | set => exact h
  | color | colorIdentity =>
    rw [fieldRelation?] at h
    split at h
    · cases h
    · exact h
  | name | type | supertype | rarity | subtype | unknown _ => cases h

/-- A field with tests joins its relation. -/
theorem fieldRelation?_of_mem (htest : test ∈ fieldTests field terms) :
    fieldRelation? field terms = field.relation? := by
  have hne : fieldTests field terms ≠ [] := List.ne_nil_of_mem htest
  cases field with
  | color | colorIdentity => exact if_neg (mt List.isEmpty_iff.mp hne)
  | name | set | type | supertype | rarity | subtype | unknown _ => rfl

/-- Only colours go unjoined, where no term is a colour. -/
theorem fieldTests_ne_nil {relation : Relation} (hrelation : relation ≠ .setMembership)
    (h : fieldRelation? field terms = some relation) : fieldTests field terms ≠ [] := by
  intro hnil
  cases field with
  | set =>
    cases h
    exact hrelation rfl
  | color | colorIdentity =>
    rw [fieldRelation?, hnil] at h
    cases h
  | name | type | supertype | rarity | subtype | unknown _ => cases h

/-! ## Calls on a plan -/

/-- Each relation is joined once, and the one that all others are joined to is not. -/
structure WellJoined (plan : Plan) : Prop where
  nodup : plan.joins.Nodup
  base_notMem : base ∉ plan.joins

/-- What a plan can be asked for while it is made. -/
inductive Call where
  | join (relation : Relation)
  | filter (predicate : Predicate)

/-- The plan after a call. -/
def call (plan : Plan) : Call → Plan
  | .join relation => plan.join relation
  | .filter predicate => plan.filter predicate

/-- The plan after several calls. -/
def run (plan : Plan) (calls : List Call) : Plan :=
  calls.foldl call plan

theorem wellJoined_empty : WellJoined {} :=
  ⟨List.nodup_nil, List.not_mem_nil⟩

theorem wellJoined_join {plan : Plan} (h : plan.WellJoined) (relation : Relation) :
    (plan.join relation).WellJoined := by
  refine ⟨join_joins_nodup h.nodup relation, ?_⟩
  by_cases hbase : relation = base
  · rw [join, if_pos (Or.inl hbase)]
    exact h.base_notMem
  · rw [mem_joins_join_iff hbase]
    exact not_or.mpr ⟨h.base_notMem, hbase⟩

/-- **Step.** A call leaves a plan with each relation joined once. -/
theorem wellJoined_call {plan : Plan} (h : plan.WellJoined) (action : Call) :
    (plan.call action).WellJoined := by
  cases action with
  | join relation => exact wellJoined_join h relation
  | filter predicate => exact ⟨h.nodup, h.base_notMem⟩

/-- **Run.** Calls leave a plan with each relation joined once. -/
theorem wellJoined_run {plan : Plan} (h : plan.WellJoined) (calls : List Call) :
    (plan.run calls).WellJoined := by
  induction calls generalizing plan with
  | nil => exact h
  | cons action rest ih => exact ih (wellJoined_call h action)

/-! ## The plan of a query -/

/-- A plan reads no relation that it does not join, and its alternatives are real ones. -/
structure Scoped (plan : Plan) : Prop extends WellJoined plan where
  available : ∀ test ∈ plan.predicates, ∀ part : Predicate, part.IsPart test →
    ∀ relation, part.relation? = some relation → relation = base ∨ relation ∈ plan.joins
  choices : ∀ test ∈ plan.predicates, ∀ alternatives, IsPart (.anyOf alternatives) test →
    IsChoice alternatives

/-- Some test of the plan reads the relation. -/
def Reads (plan : Plan) (relation : Relation) : Prop :=
  ∃ test ∈ plan.predicates, ∃ part : Predicate, part.IsPart test ∧ part.relation? = some relation

theorem mem_predicates_ofQuery {query : Query} :
    test ∈ (ofQuery query).predicates ↔
      ∃ entry ∈ query.fields, test ∈ fieldTests entry.1 entry.2 := by
  rw [predicates_ofQuery, List.mem_flatMap]

theorem mem_joins_ofQuery_iff {query : Query} {relation : Relation} :
    relation ∈ (ofQuery query).joins ↔ ∃ entry ∈ query.fields, fieldRelation? entry.1 entry.2 =
      some relation := by
  refine mem_joins_withFields_iff.trans ⟨fun h => h.resolve_left List.not_mem_nil, Or.inr⟩

theorem wellJoined_ofQuery (query : Query) : (ofQuery query).WellJoined := by
  refine ⟨nodup_joins_withFields List.nodup_nil query.fields, fun hbase => ?_⟩
  obtain ⟨entry, -, hentry⟩ := mem_joins_ofQuery_iff.mp hbase
  exact fieldRelation?_ne_base hentry rfl

/-- Every relation that a test names is at hand. -/
theorem available_ofQuery {query : Query} (htest : test ∈ (ofQuery query).predicates)
    (hpart : part.IsPart test)
    {relation : Relation} (h : part.relation? = some relation) :
    relation = base ∨ relation ∈ (ofQuery query).joins := by
  obtain ⟨entry, hentry, htest⟩ := mem_predicates_ofQuery.mp htest
  have hown := relation?_of_isPart htest hpart h
  cases hfield : entry.1.relation? with
  | none =>
    rw [hfield] at hown
    exact Or.inl hown
  | some own =>
    rw [hfield] at hown
    cases hown
    exact Or.inr
      (mem_joins_ofQuery_iff.mpr ⟨entry, hentry, (fieldRelation?_of_mem htest).trans hfield⟩)

theorem scoped_ofQuery (query : Query) : (ofQuery query).Scoped where
  toWellJoined := wellJoined_ofQuery query
  available _ htest _ hpart _ h := available_ofQuery htest hpart h
  choices _ htest _ hpart := by
    obtain ⟨entry, -, htest⟩ := mem_predicates_ofQuery.mp htest
    exact isChoice_of_isPart htest hpart

/-- The sets are joined for their field, even where it has no term. -/
theorem setMembership_mem_joins_iff (query : Query) :
    .setMembership ∈ (ofQuery query).joins ↔ .set ∈ query.fieldNames := by
  rw [mem_joins_ofQuery_iff, Query.fieldNames, List.mem_map]
  refine exists_congr fun entry => and_congr_right fun _ => ?_
  obtain ⟨field, terms⟩ := entry
  constructor
  · intro h
    have hown := relation?_of_fieldRelation? h
    cases field <;> first | rfl | cases hown
  · rintro rfl
    rfl

/-- The colours are joined for the tests of them. -/
theorem color_mem_joins_iff (query : Query) {relation : Relation} (hbase : relation ≠ base)
    (hset : relation ≠ .setMembership) :
    relation ∈ (ofQuery query).joins ↔ (ofQuery query).Reads relation := by
  constructor
  · intro hmem
    obtain ⟨entry, hentry, h⟩ := mem_joins_ofQuery_iff.mp hmem
    obtain ⟨test, htest⟩ := List.exists_mem_of_ne_nil _ (fieldTests_ne_nil hset h)
    obtain ⟨part, hpart, hnames⟩ := exists_isPart_fieldTests htest
    rw [relation?_of_fieldRelation? h] at hnames
    exact ⟨test, mem_predicates_ofQuery.mpr ⟨entry, hentry, htest⟩, part, hpart, hnames⟩
  · rintro ⟨test, htest, part, hpart, h⟩
    exact (available_ofQuery htest hpart h).resolve_left hbase

/-! ## The order of the joins -/

theorem joins_join_sublist (plan : Plan) (relation : Relation) :
    (plan.join relation).joins.Sublist (plan.joins ++ [relation]) := by
  unfold join
  split
  · exact List.sublist_append_left _ _
  · exact List.Sublist.refl _

theorem joins_withField_sublist (plan : Plan) (field : Field) (terms : List String) :
    (plan.withField field terms).joins.Sublist (plan.joins ++ field.relation?.toList) := by
  rw [joins_withField]
  cases h : fieldRelation? field terms with
  | none => exact List.sublist_append_left _ _
  | some relation =>
    rw [relation?_of_fieldRelation? h]
    exact joins_join_sublist plan relation

/-- **Run.** The joins stand in the order of the fields. -/
theorem joins_withFields_sublist (plan : Plan) (fields : List (Field × List String)) :
    (plan.withFields fields).joins.Sublist
      (plan.joins ++ (fields.map (·.1)).filterMap Field.relation?) := by
  induction fields generalizing plan with
  | nil => exact List.sublist_append_left _ _
  | cons entry rest ih =>
    have hhead : ((entry :: rest).map (·.1)).filterMap Field.relation? =
        entry.1.relation?.toList ++ (rest.map (·.1)).filterMap Field.relation? := by
      rw [List.map_cons, List.filterMap_cons]
      cases entry.1.relation? <;> rfl
    rw [hhead, ← List.append_assoc]
    exact (ih _).trans ((joins_withField_sublist plan entry.1 entry.2).append_right _)

/-- **Main theorem.** The plan of a query starts from the cards. It joins no relation twice, and
    every relation that a test reads at any depth is at hand; alternatives are several plain tests
    of one kind. The sets are joined exactly for their field, each kind of colours exactly for a
    test of it, and the joins keep the order of the fields, each of which a query lists once. Nor do
    further calls make a plan join a relation twice, or join the cards. -/
theorem ofQuery_scoped (query : Query) :
    base = .cards ∧ (ofQuery query).Scoped ∧
      (.setMembership ∈ (ofQuery query).joins ↔ .set ∈ query.fieldNames) ∧
      (.color ∈ (ofQuery query).joins ↔ (ofQuery query).Reads .color) ∧
      (.colorIdentity ∈ (ofQuery query).joins ↔ (ofQuery query).Reads .colorIdentity) ∧
      (ofQuery query).joins.Sublist (query.fieldNames.filterMap Field.relation?) ∧
      ∀ calls, (run {} calls).WellJoined ∧ ((ofQuery query).run calls).WellJoined :=
  ⟨rfl, scoped_ofQuery query, setMembership_mem_joins_iff query,
    color_mem_joins_iff query (by decide) (by decide),
      color_mem_joins_iff query (by decide) (by decide),
    joins_withFields_sublist {} query.fields,
    fun calls =>
      ⟨wellJoined_run wellJoined_empty calls, wellJoined_run (wellJoined_ofQuery query) calls⟩⟩

/-- Colours are not joined for a term that is no colour. -/
example : (ofQuery ⟨[(.color, ["purple"]), (.set, ["ALP", "!BET"])]⟩).joins = [.setMembership] := by
  decide

end Plan

end CardCensus
