import CardCensus.Query.Clause
import Mathlib.Data.List.Perm.Basic

/-!
# Clauses in another order

A query collects the terms of each field from all the clauses that mention it. Clauses in another
order give the fields in another order, and their terms too, but no field and no term comes or goes.

Results:
* `mem_fields_ofClauses`: what the clauses give a field.
* `sameTerms_of_perm`: clauses in another order give a query with the same terms.
-/

namespace CardCensus

/-! ## The terms of a field -/

/-- The terms that a clause gives a field, if it is a clause for it. -/
def Clause.terms? (field : Field) : Clause → Option (List String)
  | .filter other terms => if other = field then some terms else none
  | _ => none

namespace Query

theorem mem_fields_iff {query : Query} (h : query.fieldNames.Nodup) {field : Field}
    {terms : List String} :
    (field, terms) ∈ query.fields ↔ query.terms? field = some terms := by
  obtain ⟨fields⟩ := query
  simp only [fieldNames, terms?] at h ⊢
  induction fields with
  | nil => simp
  | cons entry rest ih =>
    obtain ⟨other, others⟩ := entry
    rw [List.map_cons, List.nodup_cons] at h
    by_cases hfield : other = field
    · subst hfield
      have hrest : (other, terms) ∉ rest := fun hmem => h.1 (List.mem_map.mpr ⟨_, hmem, rfl⟩)
      simp [hrest, eq_comm]
    · rw [List.mem_cons, List.find?_cons_of_neg (by simpa using hfield), ← ih h.2]
      constructor
      · rintro (heq | hmem)
        · exact absurd (congrArg Prod.fst heq).symm hfield
        · exact hmem
      · exact Or.inr

/-- Terms come behind those that there are. -/
def gather (before : Option (List String)) (terms : List String) : Option (List String) :=
  some (before.getD [] ++ terms)

/-- **Step.** A clause for a field adds its terms to the field and to no other. -/
theorem terms?_addTo (query : Query) (clause : Clause) (field : Field) :
    (clause.addTo query).terms? field =
      (clause.terms? field).toList.foldl gather (query.terms? field) := by
  cases clause with
  | skipped | request => rfl
  | filter other terms =>
    by_cases hfield : other = field
    · rw [Clause.terms?, if_pos hfield, Clause.addTo, hfield]
      exact terms?_add_self query field terms
    · rw [Clause.terms?, if_neg hfield]
      exact terms?_add_of_ne query (Ne.symm hfield) terms

/-- **Run.** What the clauses give a field comes behind the terms that the field has. -/
theorem terms?_foldl_addTo (clauses : List Clause) (query : Query) (field : Field) :
    (clauses.foldl Clause.addTo query).terms? field =
      (clauses.filterMap (Clause.terms? field)).foldl gather (query.terms? field) := by
  induction clauses generalizing query with
  | nil => rfl
  | cons clause rest ih =>
    rw [List.foldl_cons, ih, terms?_addTo, List.filterMap_cons]
    cases clause.terms? field <;> rfl

theorem foldl_gather (before : List String) (given : List (List String)) :
    given.foldl gather (some before) = some (before ++ given.flatten) := by
  induction given generalizing before with
  | nil => exact congrArg some (List.append_nil before).symm
  | cons terms rest ih => exact (ih _).trans (congrArg some (List.append_assoc before terms _))

/-- The queries give each field the same terms, up to the order of fields and terms. -/
structure SameTerms (first second : Query) : Prop where
  left : ∀ entry ∈ first.fields, ∃ terms, (entry.1, terms) ∈ second.fields ∧ entry.2.Perm terms
  right : ∀ entry ∈ second.fields, ∃ terms, (entry.1, terms) ∈ first.fields ∧ entry.2.Perm terms

theorem SameTerms.symm {first second : Query} (h : first.SameTerms second) :
    second.SameTerms first :=
  ⟨h.right, h.left⟩

end Query

/-! ## Rearranged clauses -/

namespace Match

/-- A field has the terms that the clauses give it, and it is mentioned when one of them does. -/
theorem mem_fields_ofClauses {clauses : List Clause} {field : Field} {terms : List String} :
    (field, terms) ∈ (ofClauses clauses).query.fields ↔
      clauses.filterMap (Clause.terms? field) ≠ [] ∧
        (clauses.filterMap (Clause.terms? field)).flatten = terms := by
  rw [Query.mem_fields_iff (fieldNames_nodup clauses), ofClauses, Query.terms?_foldl_addTo]
  cases clauses.filterMap (Clause.terms? field) with
  | nil =>
    constructor
    · intro h
      cases h
    · exact fun h => absurd rfl h.1
  | cons first rest =>
    rw [List.foldl_cons]
    change rest.foldl Query.gather (some first) = _ ↔ _
    rw [Query.foldl_gather, Option.some_inj]
    exact ⟨fun h => ⟨List.cons_ne_nil _ _, h⟩, And.right⟩

/-- A field that the clauses mention is mentioned by the rearranged ones, with the same terms. -/
theorem exists_fields_of_perm {clauses others : List Clause} (h : clauses.Perm others)
    {entry : Field × List String} (hentry : entry ∈ (ofClauses clauses).query.fields) :
    ∃ terms, (entry.1, terms) ∈ (ofClauses others).query.fields ∧ entry.2.Perm terms := by
  obtain ⟨field, terms⟩ := entry
  obtain ⟨hne, rfl⟩ := mem_fields_ofClauses.mp hentry
  have hgiven := h.filterMap (Clause.terms? field)
  exact ⟨_, mem_fields_ofClauses.mpr ⟨mt (fun hnil => (hnil ▸ hgiven).eq_nil) hne, rfl⟩,
    hgiven.flatten⟩

/-- Clauses in another order give a query with the same terms. -/
theorem sameTerms_of_perm {clauses others : List Clause} (h : clauses.Perm others) :
    (ofClauses clauses).query.SameTerms (ofClauses others).query where
  left _ hentry := exists_fields_of_perm h hentry
  right _ hentry := exists_fields_of_perm h.symm hentry

end Match

end CardCensus
