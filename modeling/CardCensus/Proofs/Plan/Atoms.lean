import CardCensus.Proofs.Plan.Fields
import Mathlib.Data.List.Perm.Basic

/-!
# The single tests of a plan

A plan keeps its tests in groups: the names of one sign in one list, and several plain terms as
alternatives. Taken apart, the groups are rows of single tests, its atoms. A term makes one atom, or
none if its field does not understand it, and the atoms of a plan are those of its terms.

Results:
* `Negation.filterMap_ordered`: plain and negated terms are treated apart, or term by term.
* `isAtomOf_of_atom?`: what a field makes of a term.
* `fieldTests_filter`: terms without an atom can be left out.
* `atoms_fieldTests`, `atoms_ofQuery`: the atoms of a field and of a query, term by term.
* `atomsOf_ofQuery`: the atoms of a plan for one field.
-/

namespace CardCensus

/-! ## Terms with and without the mark -/

namespace Negation

/-- The term has the mark. -/
def isNegated (term : String) : Bool :=
  (negated? term).isSome

/-- What a term says, without the mark. -/
def content (term : String) : String :=
  (negated? term).getD term

/-- The plain terms, then the negated ones. -/
def ordered (terms : List String) : List String :=
  terms.filter (fun term => !isNegated term) ++ terms.filter isNegated

theorem ordered_perm (terms : List String) : (ordered terms).Perm terms := by
  have hperm := List.filter_append_perm (fun term => !isNegated term) terms
  simpa [ordered] using hperm

theorem filterMap_positives {α : Type} (f : String → Option α) (terms : List String) :
    (positives terms).filterMap f =
    terms.filterMap fun term => if isNegated term then none else f (content term) := by
  rw [positives, List.filterMap_filter]
  congr 1
  funext term
  rcases h : negated? term with _ | rest <;> simp [isNegated, content, h]

theorem filterMap_negatives {α : Type} (f : String → Option α) (terms : List String) :
    (negatives terms).filterMap f =
    terms.filterMap fun term => if isNegated term then f (content term) else none := by
  rw [negatives, List.filterMap_filterMap]
  congr 1
  funext term
  rcases h : negated? term with _ | rest <;> simp [isNegated, content, h]

/-- Plain and negated terms are treated apart, or term by term. -/
theorem filterMap_ordered {α : Type} (f : Bool → String → Option α) (terms : List String) :
    (ordered terms).filterMap (fun term => f (isNegated term) (content term)) =
      (positives terms).filterMap (f false) ++ (negatives terms).filterMap (f true) := by
  rw [ordered, List.filterMap_append, filterMap_positives, filterMap_negatives,
    List.filterMap_filter,
    List.filterMap_filter]
  congr 2 <;> funext term <;> cases h : isNegated term <;> simp

theorem map_content_ordered (terms : List String) :
    (ordered terms).map content = positives terms ++ negatives terms := by
  have h := filterMap_ordered (fun _ content => some content) terms
  simpa only [List.filterMap_some, List.filterMap_eq_map'] using h

end Negation

/-! ## Atoms -/

namespace Predicate

mutual

/-- The single tests that a predicate is made of. -/
def atoms : Predicate → List Predicate
  | tagged tag negated => [.tagged tag negated]
  | oneOf column values negated => values.map fun value => .oneOf column [value] negated
  | contains column needle negated => [.contains column needle negated]
  | colorExact relation mask negated => [.colorExact relation mask negated]
  | anyOf predicates => atomsAll predicates

/-- The single tests that predicates are made of. -/
def atomsAll : List Predicate → List Predicate
  | [] => []
  | predicate :: rest => atoms predicate ++ atomsAll rest

end

theorem atomsAll_eq (predicates : List Predicate) :
    atomsAll predicates = predicates.flatMap atoms := by
  induction predicates with
  | nil => rfl
  | cons predicate rest ih => rw [atomsAll, ih, List.flatMap_cons]

end Predicate

/-- The field that a single test belongs to. -/
def Predicate.field? : Predicate → Option Field
  | .tagged tag _ => some tag.axis.field
  | .oneOf .cardName _ _ => some .name
  | .oneOf .setCode _ _ => some .set
  | .contains .typeLine _ _ => some .subtype
  | .colorExact .color _ _ => some .color
  | .colorExact .colorIdentity _ _ => some .colorIdentity
  | _ => none

/-- The test looks for something; there is nothing in an empty needle. -/
def Predicate.seeks : Predicate → Bool
  | contains _ needle _ => decide (needle ≠ "")
  | _ => true

/-- The test is a single one, for the field, and it looks for something. -/
structure Predicate.IsAtomOf (atom : Predicate) (field : Field) : Prop where
  single : atom.atoms = [atom]
  own : atom.field? = some field
  filled : atom.seeks = true

namespace Plan

open Predicate

/-- The single tests of a plan. -/
def atoms (plan : Plan) : List Predicate :=
  plan.predicates.flatMap Predicate.atoms

/-- The single tests of a plan that belong to a field. -/
def atomsOf (plan : Plan) (field : Field) : List Predicate :=
  plan.atoms.filter fun atom => atom.field? = some field

/-- The single test that a field makes of what a plain or a negated term says. -/
def atom? (field : Field) (negated : Bool) (content : String) : Option Predicate :=
  match field with
  | .name => some (.oneOf .cardName [content] negated)
  | .set => some (.oneOf .setCode [Text.uppercased content] negated)
  | .color => (ColorMask.ofTerm? content).map fun mask => .colorExact .color mask negated
  | .colorIdentity =>
    (ColorMask.ofTerm? content).map fun mask => .colorExact .colorIdentity mask negated
  | .type => (Tag.ofTerm? .type content).map fun tag => .tagged tag negated
  | .supertype => (Tag.ofTerm? .supertype content).map fun tag => .tagged tag negated
  | .rarity => (Tag.ofTerm? .rarity content).map fun tag => .tagged tag negated
  | .subtype => if content = "" then none else some (.contains .typeLine content negated)
  | .unknown _ => none

/-- The single test that a field makes of a term. -/
def termAtom? (field : Field) (term : String) : Option Predicate :=
  atom? field (Negation.isNegated term) (Negation.content term)

/-! ## The atoms of a field -/

/-- Alternatives are taken apart like tests that all have to be passed. -/
theorem atoms_choiceTests (included excluded : List Predicate) :
    (choiceTests included excluded).flatMap Predicate.atoms =
      included.flatMap Predicate.atoms ++ excluded.flatMap Predicate.atoms := by
  rw [choiceTests, List.flatMap_append]
  congr 1
  rcases included with _ | ⟨first, _ | ⟨second, rest⟩⟩
  · rfl
  · rfl
  · show Predicate.atoms (.anyOf (first :: second :: rest)) ++ [] = _
    rw [List.append_nil, Predicate.atoms, atomsAll_eq]

theorem atoms_nameTests (column : Column) (positives negatives : List String) :
    (nameTests column positives negatives).flatMap Predicate.atoms =
      (positives.map fun name => .oneOf column [name] false) ++ negatives.map fun name =>
        .oneOf column [name] true := by
  rcases positives with _ | ⟨first, positives⟩ <;> rcases negatives with _ | ⟨second, negatives⟩ <;>
    simp [nameTests, Predicate.atoms]

theorem colorTests_eq (relation : Relation) (negated : Bool) (terms : List String) :
    colorTests relation negated terms =
      terms.filterMap fun term => (ColorMask.ofTerm? term).map fun mask =>
        .colorExact relation mask negated := by
  rw [colorTests, List.map_filterMap]

theorem tagTests_eq (axis : Axis) (negated : Bool) (terms : List String) :
    tagTests axis negated terms =
    terms.filterMap fun term => (Tag.ofTerm? axis term).map fun tag => .tagged tag negated := by
  rw [tagTests, List.map_filterMap]

theorem subtypeTests_eq (negated : Bool) (terms : List String) : subtypeTests negated terms =
    terms.filterMap fun term => if term = "" then none
      else some (.contains .typeLine term negated) := by
  rw [subtypeTests, ← List.filterMap_eq_map, List.filterMap_filter]
  congr 1
  funext term
  by_cases h : term = "" <;> simp [h]

/-- What a field makes of a term is an atom of the field. -/
theorem isAtomOf_of_atom? {field : Field} {negated : Bool} {content : String} {atom : Predicate}
    (h : atom? field negated content = some atom) : atom.IsAtomOf field := by
  have htag :
      ∀ {axis : Axis}, (Tag.ofTerm? axis content).map (fun tag => Predicate.tagged tag negated) =
        some atom →
      atom.IsAtomOf axis.field := by
    intro axis h
    obtain ⟨tag, htag, rfl⟩ := Option.map_eq_some_iff.mp h
    exact ⟨by rw [Predicate.atoms], by rw [Predicate.field?, Tag.axis_of_ofTerm? htag], rfl⟩
  unfold atom? at h
  cases field with
  | name | set =>
    obtain rfl := Option.some.inj h
    exact ⟨rfl, rfl, rfl⟩
  | color | colorIdentity =>
    obtain ⟨mask, -, rfl⟩ := Option.map_eq_some_iff.mp h
    exact ⟨by rw [Predicate.atoms], rfl, rfl⟩
  | type | supertype | rarity => exact htag h
  | subtype =>
    by_cases hempty : content = ""
    · simp [hempty] at h
    · obtain rfl : Predicate.contains .typeLine content negated = atom := by simpa [hempty] using h
      exact ⟨by rw [Predicate.atoms], rfl, decide_eq_true hempty⟩
  | unknown word => cases h

/-- Single tests are their own atoms. -/
theorem flatMap_atoms_filterMap (field : Field) (negated : Bool) (values : List String) :
    (values.filterMap (atom? field negated)).flatMap Predicate.atoms =
      values.filterMap (atom? field negated) := by
  have hself : ∀ test ∈ values.filterMap (atom? field negated), test.atoms = [test] := by
    intro test htest
    obtain ⟨value, -, hvalue⟩ := List.mem_filterMap.mp htest
    exact (isAtomOf_of_atom? hvalue).single
  rw [List.flatMap_congr hself, List.flatMap_singleton']

/-- Apart from names and sets, a field lets a row choose among the atoms of its plain terms. -/
theorem fieldTests_eq_choiceTests {field : Field} (hname : field ≠ .name) (hset : field ≠ .set)
    (terms : List String) : fieldTests field terms =
      choiceTests ((Negation.positives terms).filterMap (atom? field false))
        ((Negation.negatives terms).filterMap (atom? field true)) := by
  cases field with
  | name => exact absurd rfl hname
  | set => exact absurd rfl hset
  | color | colorIdentity =>
    rw [fieldTests, maskTests, colorTests_eq, colorTests_eq]
    rfl
  | type | supertype | rarity =>
    rw [fieldTests, tagTests_eq, tagTests_eq]
    rfl
  | subtype =>
    rw [fieldTests, subtypeTests_eq, subtypeTests_eq]
    rfl
  | unknown word =>
    have hnone : ∀ negated, atom? (.unknown word) negated = fun _ => none := fun _ => rfl
    simp [fieldTests, hnone, choiceTests, Predicate.disjunction]

/-- Apart from names and sets, the tests of a field come from its terms one by one. -/
theorem fieldTests_eq_termAtoms {field : Field} (hname : field ≠ .name) (hset : field ≠ .set)
    (terms : List String) :
    fieldTests field terms =
      choiceTests (terms.filterMap fun term => if Negation.isNegated term then none
        else termAtom? field term)
        (terms.filterMap fun term => if Negation.isNegated term then termAtom? field term
          else none) := by
  rw [fieldTests_eq_choiceTests hname hset, Negation.filterMap_positives,
    Negation.filterMap_negatives]
  congr 2 <;> funext term <;> cases h : Negation.isNegated term <;> simp [termAtom?, h]

/-- Terms without an atom can be left out. -/
theorem fieldTests_filter {field : Field} {keep : String → Bool} {terms : List String}
    (h : ∀ term ∈ terms, keep term = false → termAtom? field term = none) :
    fieldTests field (terms.filter keep) = fieldTests field terms := by
  by_cases hplain : field = .name ∨ field = .set
  · -- A name and a set code always make an atom, so none of them is left out.
    have hall : terms.filter keep = terms := by
      rw [List.filter_eq_self]
      intro term hterm
      by_contra hkeep
      have hnone := h term hterm (Bool.eq_false_iff.mpr hkeep)
      rcases hplain with rfl | rfl <;> cases hnone
    rw [hall]
  · rw [not_or] at hplain
    have hdrop :
        ∀ f : String → Option Predicate, (∀ term, termAtom? field term = none → f term = none) →
        (terms.filter keep).filterMap f = terms.filterMap f := by
      intro f hf
      rw [List.filterMap_filter]
      apply List.filterMap_congr
      intro term hterm
      split
      · rfl
      · rename_i hkeep
        exact (hf term (h term hterm (Bool.eq_false_iff.mpr hkeep))).symm
    rw [fieldTests_eq_termAtoms hplain.1 hplain.2, fieldTests_eq_termAtoms hplain.1 hplain.2, hdrop,
      hdrop]
    · intro term hnone
      simp [hnone]
    · intro term hnone
      simp [hnone]

/-- **Step.** A field makes its atoms term by term, plain terms first. -/
theorem atoms_fieldTests (field : Field) (terms : List String) :
    (fieldTests field terms).flatMap Predicate.atoms =
      (Negation.ordered terms).filterMap (termAtom? field) := by
  have hterms : (Negation.ordered terms).filterMap (termAtom? field) =
      (Negation.positives terms).filterMap (atom? field false) ++
        (Negation.negatives terms).filterMap (atom? field true) :=
    Negation.filterMap_ordered (atom? field) terms
  rw [hterms]
  by_cases hname : field = .name
  · subst hname
    refine (atoms_nameTests _ _ _).trans ?_
    rw [← List.filterMap_eq_map, ← List.filterMap_eq_map]
    rfl
  by_cases hset : field = .set
  · subst hset
    refine (atoms_nameTests _ _ _).trans ?_
    rw [List.map_map, List.map_map, ← List.filterMap_eq_map, ← List.filterMap_eq_map]
    rfl
  rw [fieldTests_eq_choiceTests hname hset, atoms_choiceTests, flatMap_atoms_filterMap,
    flatMap_atoms_filterMap]

/-- **Run.** The atoms of a query are those of its terms, field by field. -/
theorem atoms_ofQuery (query : Query) : (ofQuery query).atoms =
    query.fields.flatMap fun (field, terms) => (Negation.ordered terms).filterMap
      (termAtom? field) := by
  rw [atoms, predicates_ofQuery, List.flatMap_assoc]
  congr 1
  funext entry
  exact atoms_fieldTests entry.1 entry.2

/-- Of entries for distinct fields, at most one is for a given field. -/
theorem flatMap_terms? {α : Type} {query : Query} (hdistinct : query.fieldNames.Nodup)
    (field : Field)
    {f : List String → List α} (hnil : f [] = []) :
    (query.fields.flatMap fun entry => if entry.1 = field then f entry.2 else []) =
      f ((query.terms? field).getD []) := by
  obtain ⟨entries⟩ := query
  induction entries with
  | nil => exact hnil.symm
  | cons first rest ih =>
    obtain ⟨hnew, hrest⟩ := List.nodup_cons.mp hdistinct
    rw [List.flatMap_cons]
    by_cases hfirst : first.1 = field
    · have hothers : (rest.flatMap fun entry => if entry.1 = field then f entry.2 else []) =
          [] := by
        rw [List.flatMap_eq_nil_iff]
        intro entry hentry
        have hne : entry.1 ≠ field :=
          fun heq => hnew (List.mem_map.mpr ⟨entry, hentry, heq.trans hfirst.symm⟩)
        rw [if_neg hne]
      rw [if_pos hfirst, hothers, List.append_nil, Query.terms?_cons, if_pos hfirst]
      rfl
    · rw [if_neg hfirst, List.nil_append, Query.terms?_cons, if_neg hfirst]
      exact ih hrest

/-- The atoms of a plan for a field are those that the terms of this field make. -/
theorem atomsOf_ofQuery {query : Query} (hdistinct : query.fieldNames.Nodup) (field : Field) :
    (ofQuery query).atomsOf field =
      (Negation.ordered ((query.terms? field).getD [])).filterMap (termAtom? field) := by
  have hown : ∀ entry : Field × List String,
      ((Negation.ordered entry.2).filterMap (termAtom? entry.1)).filter
        (fun atom => atom.field? = some field) =
        if entry.1 = field then (Negation.ordered entry.2).filterMap (termAtom? field) else [] := by
    intro entry
    have hfield : ∀ atom ∈ (Negation.ordered entry.2).filterMap (termAtom? entry.1),
        atom.field? = some entry.1 := by
      intro atom hatom
      obtain ⟨term, -, hterm⟩ := List.mem_filterMap.mp hatom
      exact (isAtomOf_of_atom? hterm).own
    split
    · rename_i heq
      rw [← heq, List.filter_eq_self]
      intro atom hatom
      simp [hfield atom hatom]
    · rename_i hne
      rw [List.filter_eq_nil_iff]
      intro atom hatom
      simp [hfield atom hatom, hne]
  rw [atomsOf, atoms_ofQuery, List.filter_flatMap]
  exact (congrArg (List.flatMap · query.fields) (funext hown)).trans
    (@flatMap_terms? _ query hdistinct field
      (fun terms => (Negation.ordered terms).filterMap (termAtom? field)) rfl)

end Plan

end CardCensus
