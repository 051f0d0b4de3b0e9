import CardCensus.Proofs.Plan.Atoms
import CardCensus.Proofs.Plan.Congruence
import CardCensus.Proofs.Query.Spacing
import CardCensus.Store.Selection
import CardCensus.Store.Write

/-!
# Blanks and what is retained

A colour term is trimmed before it is read and a category term is taken apart into words, so neither
sees blanks behind the mark. Hence the plan of a match text is made of the effects of its clauses,
and blanks that keep the effects keep the plan. Names, set codes and subtypes are compared as they
stand, and there the blanks behind a mark belong to the term.

Results:
* `Plan.fieldTests_tidy`: the tests of a field for tidied terms.
* `Plan.ofQuery_ofText`: the plan of a match text.
* `Store.retained_eq_of_spaced`: a text with further blanks retains what the text retains.
* `Store.retained_ne_of_spaced`: names, set codes and subtypes with a blank behind the mark.
-/

namespace CardCensus

/-! ## Terms -/

theorem ColorMask.ofTerm?_trim (letters : List Char) :
    ofTerm? (String.ofList (Text.trim letters)) = ofTerm? (String.ofList letters) := by
  simp only [ofTerm?, String.toList_ofList, Text.trim_trim]

theorem Tag.ofTerm?_trim (axis : Axis) (term : List Char) :
    ofTerm? axis (String.ofList (Text.trim term)) = ofTerm? axis (String.ofList term) := by
  simp only [ofTerm?, normalTerm, String.toList_ofList, Text.words_trim]

namespace Plan

theorem atom?_trim {field : Field} (h : field.isLoose = true) (negated : Bool)
    (content : List Char) :
    atom? field negated (String.ofList (Text.trim content)) =
      atom? field negated (String.ofList content) := by
  cases field with
  | name | set | subtype => cases h
  | color | colorIdentity => simp only [atom?, ColorMask.ofTerm?_trim]
  | type | supertype | rarity => simp only [atom?, Tag.ofTerm?_trim]
  | unknown word => rfl

/-- A tidied term is plain or negated as the term is, and it makes the same atom. -/
theorem termAtom?_tidy {field : Field} (h : field.isLoose = true) (term : String) :
    Negation.isNegated (Negation.tidy term) = Negation.isNegated term ∧
      termAtom? field (Negation.tidy term) = termAtom? field term := by
  cases hmark : Negation.negated? term with
  | none =>
    have htidy : Negation.tidy term = term := by rw [Negation.tidy, hmark]
    rw [htidy]
    exact ⟨rfl, rfl⟩
  | some rest =>
    have htidy : Negation.negated? (Negation.tidy term) =
        some (String.ofList (Text.trim rest.toList)) := by
      rw [Negation.tidy, hmark]
      simp [Negation.negated?]
    have hatom := atom?_trim h true rest.toList
    rw [String.ofList_toList] at hatom
    simp only [termAtom?, Negation.isNegated, Negation.content, hmark, htidy, Option.getD_some,
      Option.isSome_some,
      hatom, and_self]

/-- The tests of a field do not see whether its terms are tidied. -/
theorem fieldTests_tidy (field : Field) (terms : List String) :
    fieldTests field (terms.map field.tidy) = fieldTests field terms := by
  by_cases hloose : field.isLoose = true
  · have hname : field ≠ .name := by
      rintro rfl
      cases hloose
    have hset : field ≠ .set := by
      rintro rfl
      cases hloose
    have htidy : field.tidy = Negation.tidy := by
      funext term
      rw [Field.tidy, if_pos hloose]
    rw [fieldTests_eq_termAtoms hname hset, fieldTests_eq_termAtoms hname hset, htidy,
      List.filterMap_map,
      List.filterMap_map]
    congr 2 <;> funext term <;>
      rw [Function.comp_apply, (termAtom?_tidy hloose term).1, (termAtom?_tidy hloose term).2]
  · have htidy : field.tidy = id := by
      funext term
      rw [Field.tidy, if_neg hloose]
      rfl
    rw [htidy, List.map_id]

/-! ## Plans -/

/-- The plan of a match text is made of the effects of its clauses. -/
theorem ofQuery_ofText (text : String) : ofQuery (Match.ofText text).query =
    withFields {}
      ((Match.effects text).foldl (fun fields entry => Query.addTo entry.1 entry.2 fields) []) := by
  have hknown : (Match.ofText text).query.known.map (Query.mapEntry Field.tidy) =
      (Match.effects text).foldl (fun fields entry => Query.addTo entry.1 entry.2 fields) [] :=
    Query.known_foldl_addTo (Clause.readAll text.toList) {}
  have htidy : ∀ entry ∈ (Match.ofText text).query.known,
      fieldTests entry.1 (entry.2.map entry.1.tidy) = fieldTests entry.1 entry.2 :=
    fun entry _ => fieldTests_tidy entry.1 entry.2
  rw [ofQuery_eq_withFields_known, ← hknown]
  exact (@withFields_map (fun field terms => terms.map field.tidy) _ htidy {}).symm

end Plan

namespace Store

/-- **Main theorem.** Blanks in a match text make no difference to what is retained, in any number
    of places: at the ends of clauses and so on both sides of a comma, on both sides of a bar, on
    both sides of the first colon of a clause, and behind the mark at the start of a value unless it
    is a name, a set code or a subtype. -/
theorem retained_eq_of_spaced {text other : String}
    (h : Relation.ReflTransGen (Match.IsSpaced Field.isLoose) text other) (tables : Tables) :
    tables.retained (Plan.ofQuery (Match.ofText other).query) =
      tables.retained (Plan.ofQuery (Match.ofText text).query) := by
  rw [Plan.ofQuery_ofText, Plan.ofQuery_ofText, Match.effects_eq_of_spaced h]

/-- A store with one card, whose name is its type line. -/
def elfTables : Tables :=
  ({} : Tables).addPrinting "LEA" { id := "1", name := "Elf", typeLine := "Elf", multiverseId := 7 }

/-- Filters of both signs and a request. -/
def tightText : String := "type:!land|elf,name:Elf,color:!BR"

/-- The text with blanks behind its first mark and around its first comma. -/
def airyText : String := "type:! land|elf , name:Elf,color:!BR"

theorem retained_eq_of_spaced_airy :
    Relation.ReflTransGen (Match.IsSpaced Field.isLoose) tightText airyText ∧
    (elfTables.retained (Plan.ofQuery (Match.ofText tightText).query)).map (·.number) = [1] ∧
    (elfTables.retained (Plan.ofQuery (Match.ofText airyText).query)).map (·.number) = [1] := by
  have hmark : Match.IsSpaced Field.isLoose tightText "type:! land|elf,name:Elf,color:!BR" :=
    ⟨[], "type:!".toList, [' '], "land|elf".toList, ["name:Elf".toList, "color:!BR".toList], by
      decide, by decide,
      by decide, @Clause.Gap.afterMark _ "type".toList [] [] (by decide) (by decide) (Or.inl
        rfl) rfl _⟩
  have hstop :
      Match.IsSpaced Field.isLoose "type:! land|elf,name:Elf,color:!BR"
        "type:! land|elf ,name:Elf,color:!BR" :=
    ⟨[], "type:! land|elf".toList, [' '], [], ["name:Elf".toList, "color:!BR".toList], by
      decide, by decide,
      by decide, .stop _⟩
  have hstart : Match.IsSpaced Field.isLoose "type:! land|elf ,name:Elf,color:!BR" airyText :=
    ⟨["type:! land|elf ".toList], [], [' '], "name:Elf".toList, ["color:!BR".toList], by
      decide, by decide,
      by decide, .start _⟩
  have hspaced : Relation.ReflTransGen (Match.IsSpaced Field.isLoose) tightText airyText :=
    ((Relation.ReflTransGen.single hmark).tail hstop).tail hstart
  have hretained :
      (elfTables.retained (Plan.ofQuery (Match.ofText tightText).query)).map (·.number) = [1] := by
    decide +kernel
  exact ⟨hspaced, hretained, by rw [retained_eq_of_spaced hspaced, hretained]⟩

/-- A blank behind the mark belongs to a name, a set code and a subtype, and can change what is
    retained. -/
theorem retained_ne_of_spaced :
    (Match.IsSpaced Field.isKnown "name:!Elf" "name:! Elf" ∧
      (elfTables.retained (Plan.ofQuery (Match.ofText "name:!Elf").query)).map (·.number) = [] ∧
      (elfTables.retained (Plan.ofQuery (Match.ofText "name:! Elf").query)).map (·.number) = [1]) ∧
    (Match.IsSpaced Field.isKnown "set:!LEA" "set:! LEA" ∧
      (elfTables.retained (Plan.ofQuery (Match.ofText "set:!LEA").query)).map (·.number) = [] ∧
      (elfTables.retained (Plan.ofQuery (Match.ofText "set:! LEA").query)).map (·.number) = [1]) ∧
    (Match.IsSpaced Field.isKnown "subtype:!Elf" "subtype:! Elf" ∧
      (elfTables.retained (Plan.ofQuery (Match.ofText "subtype:!Elf").query)).map (·.number) = [] ∧
      (elfTables.retained (Plan.ofQuery (Match.ofText "subtype:! Elf").query)).map (·.number) =
        [1]) := by
  refine ⟨⟨?_, by decide +kernel, by decide +kernel⟩, ⟨?_, by decide +kernel, by decide +kernel⟩,
    ⟨?_, by decide +kernel, by decide +kernel⟩⟩
  · exact ⟨[], "name:!".toList, [' '], "Elf".toList, [], by decide, by decide, by decide,
      @Clause.Gap.afterMark _ "name".toList [] [] (by decide) (by decide) (Or.inl rfl) rfl _⟩
  · exact ⟨[], "set:!".toList, [' '], "LEA".toList, [], by decide, by decide, by decide,
      @Clause.Gap.afterMark _ "set".toList [] [] (by decide) (by decide) (Or.inl rfl) rfl _⟩
  · exact ⟨[], "subtype:!".toList, [' '], "Elf".toList, [], by decide, by decide, by decide,
      @Clause.Gap.afterMark _ "subtype".toList [] [] (by decide) (by decide) (Or.inl rfl) rfl _⟩

end Store

end CardCensus
