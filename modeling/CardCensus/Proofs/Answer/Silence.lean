import CardCensus.Proofs.Answer.Diagnostics
import CardCensus.Proofs.Query.Clauses

/-!
# Match texts without diagnostics

The values of a match text are what stands between its bars. A text about which nothing is reported
loses none of them: each value of a filter is one atom of the plan and each value of a verb is one
request. Values with nothing in them are the exception, for a subtype and for a verb.

Results:
* `Query.pairs_add`, `Query.pairs_ofText`: a query has the values that its text writes, up to order.
* `Plan.atoms_perm_pairs`: the atoms of a plan, value by value.
* `isSome_termAtom?_of_silent`: without a report, every value but an empty subtype has an atom.
* `Answer.silent_complete`: what a text without diagnostics does.
* `Answer.silent_losses`: the exceptions.
-/

namespace CardCensus

/-! ## Values as they are written -/

namespace Clause

/-- The values of a text, each with the word before the first colon of its clause. -/
def written (text : String) : List (String × String) :=
  (parts text).flatMap fun part =>
    match Text.cutAtChar fieldMark part with
    | none => []
    | some (head, rest) => (values rest).map fun value => (String.ofList (Text.trim head), value)

/-- The values in the filters of a text, each with its field. -/
def filterValues (text : String) : List (Field × String) :=
  ((written text).filter fun entry => Verb.ofWord? entry.1 = none).map fun entry =>
    (Field.ofWord entry.1, entry.2)

/-- The values behind the verbs of a text, each with its verb. -/
def verbValues (text : String) : List (Verb × String) :=
  (written text).filterMap fun entry => (Verb.ofWord? entry.1).map fun verb => (verb, entry.2)

/-- The terms of a filter, each with its field. -/
def pairs : Clause → List (Field × String)
  | filter field terms => terms.map fun term => (field, term)
  | _ => []

theorem filterValues_eq (text : String) :
    filterValues text = (parts text).flatMap fun part => (read part).pairs := by
  rw [filterValues, written, List.filter_flatMap, List.map_flatMap]
  congr 1
  funext part
  rw [read]
  cases Text.cutAtChar fieldMark part with
  | none => rfl
  | some cut =>
    cases hword : Verb.ofWord? (String.ofList (Text.trim cut.1)) <;>
      simp [List.filter_map, Function.comp_def, hword, pairs]

/-- A verb asks for each value with something in it. -/
theorem requests_verbValues (text : String) :
    ((verbValues text).filter fun entry => entry.2 ≠ "").map
      (fun entry => Request.mk entry.1 entry.2) =
      (parts text).flatMap fun part => (read part).requests := by
  rw [verbValues, written, List.filterMap_flatMap, List.filter_flatMap, List.map_flatMap]
  congr 1
  funext part
  rw [read]
  cases Text.cutAtChar fieldMark part with
  | none => rfl
  | some cut =>
    cases hword : Verb.ofWord? (String.ofList (Text.trim cut.1)) <;>
      simp [List.filter_map, List.filterMap_map, Function.comp_def, hword, requests]

end Clause

/-! ## The terms of a query -/

namespace Query

/-- The terms of a query, each with its field. -/
def pairs (query : Query) : List (Field × String) :=
  query.fields.flatMap fun entry => entry.2.map fun term => (entry.1, term)

theorem pairs_add (query : Query) (field : Field) (terms : List String) :
    (query.add field terms).pairs.Perm (query.pairs ++ terms.map fun term => (field, term)) := by
  obtain ⟨fields⟩ := query
  simp only [pairs, add]
  induction fields with
  | nil => simp [addTo]
  | cons entry rest ih =>
    obtain ⟨first, before⟩ := entry
    by_cases hfirst : first = field
    · subst hfirst
      simp only [addTo, ↓reduceIte, List.flatMap_cons, List.map_append, List.append_assoc]
      exact List.perm_append_comm.append_left _
    · simp only [addTo, hfirst, ↓reduceIte, List.flatMap_cons, List.append_assoc]
      exact ih.append_left _

/-- **Step.** A clause adds its terms. -/
theorem pairs_addTo (query : Query) (clause : Clause) :
    (clause.addTo query).pairs.Perm (query.pairs ++ clause.pairs) := by
  cases clause with
  | filter field terms => exact pairs_add query field terms
  | skipped | request => exact List.Perm.of_eq (List.append_nil _).symm

/-- **Run.** Clauses add their terms. -/
theorem pairs_foldl_addTo (clauses : List Clause) (query : Query) :
    (clauses.foldl Clause.addTo query).pairs.Perm
      (query.pairs ++ clauses.flatMap Clause.pairs) := by
  induction clauses generalizing query with
  | nil => exact List.Perm.of_eq (List.append_nil _).symm
  | cons clause rest ih =>
    rw [List.foldl_cons, List.flatMap_cons, ← List.append_assoc]
    exact (ih _).trans ((pairs_addTo query clause).append_right _)

/-- A query has the values that its text writes. -/
theorem pairs_ofText {text : String} (hfilled : Match.IsFilled text) :
    (Match.ofText text).query.pairs.Perm (Clause.filterValues text) := by
  rw [Clause.filterValues_eq, Match.ofText, Clause.readAll_eq hfilled]
  show (((Clause.parts text).map Clause.read).foldl Clause.addTo {}).pairs.Perm _
  have hpairs := pairs_foldl_addTo ((Clause.parts text).map Clause.read) {}
  rwa [List.flatMap_map] at hpairs

end Query

/-! ## Atoms, value by value -/

/-- The field and the value have something to look for; there is nothing in an empty subtype. -/
def Field.seeks (field : Field) (value : String) : Bool :=
  !(decide (field = subtype) && decide (Negation.content value = ""))

namespace Plan

/-- The atoms of a plan are those of the terms of its query. -/
theorem atoms_perm_pairs (query : Query) :
    (ofQuery query).atoms.Perm (query.pairs.filterMap fun pair => termAtom? pair.1 pair.2) := by
  rw [atoms_ofQuery, Query.pairs, List.filterMap_flatMap]
  apply List.Perm.flatMap_left
  intro entry _
  rw [List.filterMap_map]
  exact (Negation.ordered_perm entry.2).filterMap _

end Plan

/-- Without a report, every value but an empty subtype has an atom. -/
theorem isSome_termAtom?_of_silent {parsed : Match} (hsilent : Diagnostic.ofMatch parsed = [])
    {pair : Field × String}
    (h : pair ∈ parsed.query.pairs) : (Plan.termAtom? pair.1 pair.2).isSome =
      pair.1.seeks pair.2 := by
  obtain ⟨⟨field, terms⟩, hmem, hpair⟩ := List.mem_flatMap.mp h
  obtain ⟨term, hterm, rfl⟩ := List.mem_map.mp hpair
  show (Plan.termAtom? field term).isSome = field.seeks term
  have hunderstood : Diagnostic.understands field (Negation.content term) = true := by
    have hreported := Diagnostic.namesTerm_ofMatch hmem hterm
    rw [hsilent] at hreported
    exact (Bool.not_eq_false' _).mp hreported.symm
  have hknown : field.isKnown = true := by
    have hreported := Diagnostic.namesField_ofMatch hmem
    rw [hsilent] at hreported
    cases field with
    | unknown word => cases hreported
    | _ => rfl
  cases field with
  | name | set => rfl
  | type | supertype | rarity | color | colorIdentity =>
    rw [Plan.isSome_termAtom? rfl, hunderstood]
    rfl
  | subtype =>
    by_cases hempty : Negation.content term = "" <;>
      simp [Plan.termAtom?, Plan.atom?, Field.seeks, hempty]
  | unknown word => cases hknown

namespace Answer

/-- **Main theorem.** Of a text without a blank clause and without diagnostics, each value of a
    filter makes one test of its own in the plan, and the plan has no other tests; empty subtypes
    are set apart on both sides. Each value of a verb with something in it makes one request, in
    order, and an empty one makes none. -/
theorem silent_complete {text : String} (hfilled : Match.IsFilled text)
    (hsilent : Diagnostic.ofMatch (Match.ofText text) = []) :
    (((Plan.ofQuery (Match.ofText text).query).atoms.filter Predicate.seeks).map some).Perm
      (((Clause.filterValues text).filter fun entry => entry.1.seeks entry.2).map fun entry =>
        Plan.termAtom? entry.1 entry.2) ∧
    (Match.ofText text).requests = Match.orStandard
      (((Clause.verbValues text).filter fun entry => entry.2 ≠ "").map fun entry =>
        ⟨entry.1, entry.2⟩) := by
  constructor
  · have hatoms := Plan.atoms_perm_pairs (Match.ofText text).query
    have hseeks : ∀ atom ∈ (Plan.ofQuery (Match.ofText text).query).atoms, Predicate.seeks atom =
        true := by
      intro atom hatom
      obtain ⟨pair, -, hpair⟩ := List.mem_filterMap.mp (hatoms.mem_iff.mp hatom)
      exact (Plan.isAtomOf_of_atom? hpair).filled
    have hsome :
        (Match.ofText text).query.pairs.filter (fun pair => (Plan.termAtom? pair.1 pair.2).isSome) =
        (Match.ofText text).query.pairs.filter fun pair => pair.1.seeks pair.2 :=
      List.filter_congr fun pair hpair => isSome_termAtom?_of_silent hsilent hpair
    have hvalues := ((Query.pairs_ofText hfilled).filter fun pair => pair.1.seeks pair.2).map
      fun pair => Plan.termAtom? pair.1 pair.2
    rw [List.filter_eq_self.mpr hseeks]
    refine (hatoms.map some).trans (List.Perm.trans ?_ hvalues)
    rw [List.map_filterMap_some_eq_filter_map_isSome, List.filter_map, ← hsome]
    rfl
  · rw [Match.ofText, Clause.readAll_eq hfilled, Clause.requests_verbValues]
    show Match.orStandard (((Clause.parts text).map Clause.read).flatMap Clause.requests) = _
    rw [List.flatMap_map]

/-- A text without diagnostics: both signs, an empty colour, a field in two places, and
    two verbs. -/
def silentText : String :=
  "type:Creature|!Land,color:BR|!,subtype:Elf,TYPES:instant,name:Ash,avg:cmc|power,max: cmc"

theorem silent_complete_silentText :
    Match.IsFilled silentText ∧ Diagnostic.ofMatch (Match.ofText silentText) = [] ∧
    Clause.filterValues silentText = [(.type, "Creature"), (.type, "!Land"), (.color, "BR"),
      (.color, "!"),
      (.subtype, "Elf"), (.type, "instant"), (.name, "Ash")] ∧
    ((Plan.ofQuery (Match.ofText silentText).query).atoms.filter Predicate.seeks).length = 7 ∧
    (Match.ofText silentText).requests =
      [⟨.average, "cmc"⟩, ⟨.average, "power"⟩, ⟨.maximum, "cmc"⟩] := by
  have hfilled : Match.IsFilled silentText := by decide +kernel
  have hsilent : Diagnostic.ofMatch (Match.ofText silentText) = [] := by decide +kernel
  have hvalues :
      Clause.filterValues silentText =
        [(.type, "Creature"), (.type, "!Land"), (.color, "BR"), (.color, "!"),
      (.subtype, "Elf"), (.type, "instant"), (.name, "Ash")] := by decide +kernel
  have hverbs :
      Clause.verbValues silentText = [(.average, "cmc"), (.average, "power"),
        (.maximum, "cmc")] := by
    decide +kernel
  obtain ⟨hatoms, hrequests⟩ := silent_complete hfilled hsilent
  refine ⟨hfilled, hsilent, hvalues, ?_, ?_⟩
  · have hlength := hatoms.length_eq
    rw [List.length_map, hvalues] at hlength
    exact hlength
  · rw [hrequests, hverbs]
    rfl

/-- An empty subtype and an empty column have no effect, and nothing is reported. -/
theorem silent_losses :
    (Match.IsFilled "subtype:" ∧ Diagnostic.ofMatch (Match.ofText "subtype:") = [] ∧
      Clause.filterValues "subtype:" = [(.subtype, "")] ∧
      (Plan.ofQuery (Match.ofText "subtype:").query).atoms.length = 0) ∧
    (Match.IsFilled "sum:cmc|" ∧ Diagnostic.ofMatch (Match.ofText "sum:cmc|") = [] ∧
      Clause.verbValues "sum:cmc|" = [(.sum, "cmc"), (.sum, "")] ∧
      (Match.ofText "sum:cmc|").requests = [⟨.sum, "cmc"⟩]) := by
  decide +kernel

end Answer

end CardCensus
