import CardCensus.Answer
import CardCensus.Proofs.Plan.Atoms
import CardCensus.Proofs.Plan.Congruence

/-!
# What the diagnostics say

A plan and the diagnostics of a match text are made in two passes over the same terms. They agree:
what is reported has no effect on the plan, and a term that is not reported has its own test there.
So a query from which everything reported is taken out has the same plan, and a strict answer is the
lenient one with the diagnostics before it.

Results:
* `Plan.isSome_termAtom?`: a field makes an atom of what it understands.
* `namesTerm_ofMatch`, `namesField_ofMatch`: what is reported of a query.
* `ofQuery_without`: the plan of the query without what is reported.
* `filter_isAbout_ofMatch`: the diagnostics about the terms of one field.
* `map_some_atomsOf`, `length_terms_eq`: the terms of one field, reported or in the plan.
* `Answer.diagnostics_sound_and_inert`: all of it, and the strict answer.
-/

namespace CardCensus

/-- The field has a vocabulary, so that a term can be unknown to it. -/
def Field.isSelective : Field → Bool
  | type | supertype | rarity | color | colorIdentity => true
  | name | set | subtype | unknown _ => false

theorem Field.isKnown_of_isSelective {field : Field} (h : field.isSelective = true) :
    field.isKnown = true := by
  cases field with
  | unknown word => cases h
  | _ => rfl

/-! ## What is understood -/

namespace Plan

/-- A field makes an atom of what it understands. -/
theorem isSome_termAtom? {field : Field} (h : field.isSelective = true) (term : String) :
    (termAtom? field term).isSome = Diagnostic.understands field (Negation.content term) := by
  cases field with
  | type | supertype | rarity | color | colorIdentity =>
    rw [termAtom?, atom?, Option.isSome_map, Diagnostic.understands]
  | name | set | subtype | unknown _ => cases h

theorem termAtom?_eq_none {field : Field} {term : String}
    (h : Diagnostic.understands field (Negation.content term) = false) :
    termAtom? field term = none := by
  by_cases hselective : field.isSelective = true
  · rw [← isSome_termAtom? hselective] at h
    exact Option.not_isSome_iff_eq_none.mp (Bool.eq_false_iff.mp h)
  · cases field with
    | name | set | subtype | unknown _ => cases h
    | type | supertype | rarity | color | colorIdentity => exact absurd rfl hselective

end Plan

/-! ## What is reported -/

namespace Diagnostic

/-- The field is among the reported ones. -/
def namesField (reported : List Diagnostic) : Field → Bool
  | .unknown word => decide (unknownField word ∈ reported)
  | _ => false

/-- The term is among the reported ones of the field, as it is or behind the mark. -/
def namesTerm (reported : List Diagnostic) (field : Field) (term : String) : Bool :=
  decide (unknownTerm field (Negation.content term) ∈ reported)

/-- The diagnostic is about a term of the field. -/
def isAbout (field : Field) : Diagnostic → Bool
  | unknownTerm other _ => decide (other = field)
  | _ => false

/-- A known field has a diagnostic for each term that it does not understand. -/
theorem ofField_eq {field : Field} (h : field.isKnown = true) (terms : List String) :
    ofField field terms =
    ((Negation.ordered terms).filter fun term => !understands field (Negation.content term)).map
      fun term => unknownTerm field (Negation.content term) := by
  have hterms : ofField field terms = ((Negation.positives terms ++ Negation.negatives terms).filter
      fun term => !understands field term).map (unknownTerm field) := by
    cases field with
    | unknown word => cases h
    | _ => rfl
  rw [hterms, ← Negation.map_content_ordered, List.filter_map, List.map_map]
  rfl

theorem mem_ofField_iff {field other : Field} {terms : List String} {content : String} :
    unknownTerm field content ∈ ofField other terms ↔
      other = field ∧ (∃ term ∈ terms, Negation.content term = content) ∧
        understands field content = false := by
  by_cases hknown : other.isKnown = true
  · rw [ofField_eq hknown, List.mem_map]
    constructor
    · rintro ⟨term, hterm, heq⟩
      obtain ⟨hmem, hnot⟩ := List.mem_filter.mp hterm
      obtain ⟨rfl, rfl⟩ := unknownTerm.inj heq
      exact ⟨rfl, ⟨term, (Negation.ordered_perm terms).mem_iff.mp hmem, rfl⟩,
        (Bool.not_eq_true' _).mp hnot⟩
    · rintro ⟨rfl, ⟨term, hterm, rfl⟩, hnot⟩
      refine ⟨term, List.mem_filter.mpr ⟨(Negation.ordered_perm terms).mem_iff.mpr hterm, ?_⟩, rfl⟩
      rw [hnot]
      rfl
  · cases other with
    | unknown word =>
      constructor
      · intro hmem
        cases List.mem_singleton.mp hmem
      · rintro ⟨rfl, -, hnot⟩
        cases hnot
    | _ => exact absurd rfl hknown

variable {parsed : Match} {field : Field} {terms : List String}

/-- A term is reported exactly when its field does not understand it. -/
theorem namesTerm_ofMatch (hmem : (field, terms) ∈ parsed.query.fields) {term : String}
    (hterm : term ∈ terms) :
    namesTerm (ofMatch parsed) field term = !understands field (Negation.content term) := by
  have hiff : unknownTerm field (Negation.content term) ∈ ofMatch parsed ↔
      understands field (Negation.content term) = false := by
    rw [ofMatch, List.mem_append, List.mem_flatMap]
    constructor
    · rintro (hskipped | ⟨entry, -, hentry⟩)
      · obtain ⟨text, -, heq⟩ := List.mem_map.mp hskipped
        cases heq
      · exact (mem_ofField_iff.mp hentry).2.2
    · intro hnot
      exact Or.inr ⟨_, hmem, mem_ofField_iff.mpr ⟨rfl, ⟨term, hterm, rfl⟩, hnot⟩⟩
  rw [namesTerm, Bool.eq_iff_iff, decide_eq_true_iff, hiff, Bool.not_eq_true']

/-- A field is reported exactly when it is unknown. -/
theorem namesField_ofMatch (hmem : (field, terms) ∈ parsed.query.fields) :
    namesField (ofMatch parsed) field = !field.isKnown := by
  cases field with
  | unknown word =>
    have hreported : unknownField word ∈ ofMatch parsed :=
      List.mem_append_right _ (List.mem_flatMap.mpr ⟨_, hmem, List.mem_singleton.mpr rfl⟩)
    exact decide_eq_true hreported
  | _ => rfl

end Diagnostic

/-! ## The query without what is reported -/

namespace Query

open Diagnostic

theorem mem_fields_of_mem_terms? {query : Query} (hdistinct : query.fieldNames.Nodup)
    {field : Field} {term : String}
    (h : term ∈ (query.terms? field).getD []) :
    (field, (query.terms? field).getD []) ∈ query.fields := by
  rw [mem_fields_iff hdistinct]
  cases hterms : query.terms? field with
  | none =>
    rw [hterms] at h
    cases h
  | some terms => rfl

/-- The query without the reported fields, and without the reported terms of the others. -/
def without (query : Query) (reported : List Diagnostic) : Query where
  fields := (query.fields.filter fun entry => !namesField reported entry.1).map fun entry =>
    (entry.1, entry.2.filter fun term => !namesTerm reported entry.1 term)

/-- What is reported has no effect on the plan. -/
theorem ofQuery_without (parsed : Match) :
    Plan.ofQuery (parsed.query.without (ofMatch parsed)) = Plan.ofQuery parsed.query := by
  have hknown : (parsed.query.fields.filter fun entry => !namesField (ofMatch parsed) entry.1) =
      parsed.query.known := by
    apply List.filter_congr
    intro entry hentry
    rw [namesField_ofMatch hentry, Bool.not_not]
  have htests : ∀ entry ∈ parsed.query.known,
      Plan.fieldTests entry.1
        (entry.2.filter fun term => !namesTerm (ofMatch parsed) entry.1 term) =
        Plan.fieldTests entry.1 entry.2 := by
    intro entry hentry
    apply Plan.fieldTests_filter
    intro term hterm hreported
    rw [namesTerm_ofMatch (List.mem_filter.mp hentry).1 hterm, Bool.not_not] at hreported
    exact Plan.termAtom?_eq_none hreported
  rw [Plan.ofQuery_eq_withFields_known parsed.query,
    ← @Plan.withFields_map (fun field terms => terms.filter fun term =>
      !namesTerm (ofMatch parsed) field term) _ htests,
    ← hknown]
  rfl

end Query

/-! ## The diagnostics of one field -/

namespace Diagnostic

/-- The diagnostics about the terms of a field are those of this field. -/
theorem filter_isAbout_ofMatch {parsed : Match} (hdistinct : parsed.query.fieldNames.Nodup)
    {field : Field}
    (h : field.isSelective = true) :
    (ofMatch parsed).filter (isAbout field) =
      ofField field ((parsed.query.terms? field).getD []) := by
  have hskipped : (parsed.skipped.map skippedClause).filter (isAbout field) = [] := by
    rw [List.filter_eq_nil_iff, List.forall_mem_map]
    intro text _
    exact Bool.false_ne_true
  have hown : ∀ entry : Field × List String, (ofField entry.1 entry.2).filter (isAbout field) =
      if entry.1 = field then ofField field entry.2 else [] := by
    intro entry
    by_cases hknown : entry.1.isKnown = true
    · rw [ofField_eq hknown, List.filter_map]
      split
      · rename_i heq
        rw [heq, ofField_eq (heq ▸ hknown)]
        simp [isAbout, Function.comp_def]
      · rename_i hne
        simp [isAbout, Function.comp_def, hne]
    · have hne : entry.1 ≠ field := by
        rintro rfl
        exact hknown (Field.isKnown_of_isSelective h)
      rw [if_neg hne]
      cases hentry : entry.1 with
      | unknown word => rfl
      | _ => simp [hentry, Field.isKnown] at hknown
  have hnil : ofField field [] = [] := ofField_eq (Field.isKnown_of_isSelective h) []
  rw [ofMatch, List.filter_append, hskipped, List.nil_append, List.filter_flatMap]
  exact (congrArg (List.flatMap · parsed.query.fields) (funext hown)).trans
    (Plan.flatMap_terms? hdistinct field hnil)

/-- What the terms of a field that are not reported say stands in the plan, one atom for each. -/
theorem map_some_atomsOf {parsed : Match} (hdistinct : parsed.query.fieldNames.Nodup)
    {field : Field}
    (h : field.isSelective = true) {terms : List String}
    (hterms : (parsed.query.terms? field).getD [] = terms) :
    ((Plan.ofQuery parsed.query).atomsOf field).map some =
      ((Negation.ordered terms).filter fun term => !namesTerm (ofMatch parsed) field term).map
        (Plan.termAtom? field) := by
  subst hterms
  have hreported : ∀ term ∈ Negation.ordered ((parsed.query.terms? field).getD []),
      (!namesTerm (ofMatch parsed) field term) = (Plan.termAtom? field term).isSome := by
    intro term hterm
    have hmem : term ∈ (parsed.query.terms? field).getD [] :=
      (Negation.ordered_perm _).mem_iff.mp hterm
    rw [namesTerm_ofMatch (Query.mem_fields_of_mem_terms? hdistinct hmem) hmem, Bool.not_not,
      Plan.isSome_termAtom? h]
  rw [List.filter_congr hreported, Plan.atomsOf_ofQuery hdistinct,
    List.map_filterMap_some_eq_filter_map_isSome,
    List.filter_map]
  rfl

/-- Each term of a field with a vocabulary is reported or has an atom. -/
theorem length_terms_eq {parsed : Match} (hdistinct : parsed.query.fieldNames.Nodup) {field : Field}
    (h : field.isSelective = true) {terms : List String}
    (hterms : (parsed.query.terms? field).getD [] = terms) :
    terms.length =
      (ofMatch parsed).countP (isAbout field) +
        ((Plan.ofQuery parsed.query).atomsOf field).length := by
  subst hterms
  generalize hordered : Negation.ordered ((parsed.query.terms? field).getD []) = terms
  have hcount : (ofMatch parsed).countP (isAbout field) =
      terms.countP fun term => !(Plan.termAtom? field term).isSome := by
    rw [List.countP_eq_length_filter, filter_isAbout_ofMatch hdistinct h,
      ofField_eq (Field.isKnown_of_isSelective h),
      List.length_map, List.countP_eq_length_filter, hordered]
    simp only [Plan.isSome_termAtom? h]
  have hatoms : ((Plan.ofQuery parsed.query).atomsOf field).length =
      terms.countP fun term => (Plan.termAtom? field term).isSome := by
    rw [Plan.atomsOf_ofQuery hdistinct, List.length_filterMap_eq_countP, hordered]
  have htotal :=
    @List.length_eq_countP_add_countP _ (fun term => (Plan.termAtom? field term).isSome) terms
  simp only [Bool.not_eq_true, Bool.decide_eq_false] at htotal
  rw [hcount, hatoms, ← (Negation.ordered_perm _).length_eq, hordered, htotal, Nat.add_comm]

end Diagnostic

namespace Answer

/-- **Main theorem.** The query without what is reported has the same plan. Each term of a field
    with a vocabulary has one atom in the plan or one diagnostic: the atoms of the field are those
    of the terms that are not reported, one by one, and together with the diagnostics there are as
    many as terms. Whatever the store, the strict answer is the diagnostics followed by the lenient
    answer. -/
theorem diagnostics_sound_and_inert (text : String) :
    Plan.ofQuery ((Match.ofText text).query.without (Diagnostic.ofMatch (Match.ofText text))) =
      Plan.ofQuery (Match.ofText text).query ∧
    (∀ field terms, field.isSelective = true → ((Match.ofText text).query.terms? field).getD [] =
      terms →
      ((Plan.ofQuery (Match.ofText text).query).atomsOf field).map some =
        ((Negation.ordered terms).filter fun term =>
          !Diagnostic.namesTerm (Diagnostic.ofMatch (Match.ofText text)) field term).map
            (Plan.termAtom? field) ∧
      terms.length = (Diagnostic.ofMatch (Match.ofText text)).countP (Diagnostic.isAbout field) +
        ((Plan.ofQuery (Match.ofText text).query).atomsOf field).length) ∧
    ∀ (store : Store) (template : String) (deadline : Nat),
      stats store ⟨template, deadline, true⟩ text =
      (Diagnostic.ofMatch (Match.ofText text)).map Diagnostic.message ++
        stats store ⟨template, deadline, false⟩ text := by
  have hdistinct : (Match.ofText text).query.fieldNames.Nodup := Match.fieldNames_nodup _
  refine ⟨Query.ofQuery_without _, fun field terms hselective hterms => ⟨?_, ?_⟩, fun _ _ _ => rfl⟩
  · exact Diagnostic.map_some_atomsOf hdistinct hselective hterms
  · exact Diagnostic.length_terms_eq hdistinct hselective hterms

/-- A text with a clause, a field and terms of both signs that are not understood. -/
def halfUnderstood : String := "type:Goblin|!Creature|Land,oops,color:!purple|BR|purple,flavor:x"

/-- What it says. -/
def halfUnderstoodMatch : Match where
  query := ⟨[(.type, ["Goblin", "!Creature", "Land"]), (.color, ["!purple", "BR", "purple"]),
    (.unknown "flavor", ["x"])]⟩
  requests := [.standard]
  skipped := ["oops"]

/-- What is understood of it. -/
def understoodQuery : Query where
  fields := [(.type, ["!Creature", "Land"]), (.color, ["BR"])]

theorem diagnostics_sound_and_inert_halfUnderstood :
    Match.ofText halfUnderstood = halfUnderstoodMatch ∧
    halfUnderstoodMatch.query.without (Diagnostic.ofMatch halfUnderstoodMatch) = understoodQuery ∧
    Plan.ofQuery understoodQuery = Plan.ofQuery halfUnderstoodMatch.query ∧
    Field.color.isSelective = true ∧
    ((Plan.ofQuery halfUnderstoodMatch.query).atomsOf .color).length = 1 ∧
    ∃ lines, stats {} ⟨"", 2000, true⟩ halfUnderstood =
      ["Warning: clause 'oops' has no ':' and was ignored",
        "Warning: unknown type 'Goblin' was ignored",
        "Warning: unknown color 'purple' was ignored",
          "Warning: unknown color 'purple' was ignored",
        "Warning: unknown field 'flavor' was ignored"] ++ lines ∧
      stats {} ⟨"", 2000, false⟩ halfUnderstood = lines := by
  obtain ⟨hplan, hfields, hstrict⟩ := diagnostics_sound_and_inert halfUnderstood
  have hparsed : Match.ofText halfUnderstood = halfUnderstoodMatch := by decide +kernel
  rw [hparsed] at hplan hfields hstrict
  have hreported : Diagnostic.ofMatch halfUnderstoodMatch =
      [.skippedClause "oops", .unknownTerm .type "Goblin", .unknownTerm .color "purple",
        .unknownTerm .color "purple", .unknownField "flavor"] := by decide +kernel
  rw [hreported] at hplan hfields hstrict
  have hquery : halfUnderstoodMatch.query.without (Diagnostic.ofMatch halfUnderstoodMatch) =
      understoodQuery := by
    rw [hreported]
    decide +kernel
  have hselective : Field.color.isSelective = true := rfl
  refine ⟨hparsed, hquery, ?_, hselective, ?_, _, hstrict {} "" 2000, rfl⟩
  · rw [hreported] at hquery
    rwa [hquery] at hplan
  · have hcount := (hfields .color _ hselective rfl).2
    -- Three terms, two of which are reported.
    change 3 = 2 + _ at hcount
    omega

end Answer

end CardCensus
