import CardCensus.Proofs.Plan.Atoms
import CardCensus.Proofs.Plan.Order
import CardCensus.Store.Scan
import Mathlib.Algebra.GroupWithZero.Nat
import Mathlib.Data.List.Perm.Subperm

/-!
# Statements within the limits

A condition gets deeper by one with each test that is connected to it, so it is no deeper than the
tests are many, but for a constant. A query of a few hundred terms, none of which is looked for and
very long, is within the limits, whatever is asked of it.

Results:
* `exists_readPredicate`, `exists_readFurther`: what reading costs.
* `withinLimits_of_totalWeight`: a plan of few tests and values.
* `withinLimits_ofQuery`: a query of few terms.
* `readCondition_deepQuery`, `withinLimits_shallowQuery`: of more terms, the order matters.
* `meetsLongPattern_riskyQuery`, `retained_riskyQuery`: a needle that is too long is no matter as
  long as the rows pass a test in front of it.
-/

namespace CardCensus.Sql

/-! ## Weights -/

mutual

/-- How many tests, values and disjunctions a predicate is made of. -/
def weight : Predicate → Nat
  | .oneOf _ values _ => values.length + 1
  | .anyOf predicates => totalWeight predicates + 1
  | .tagged .. | .contains .. | .colorExact .. => 1

/-- The weight of several predicates. -/
def totalWeight : List Predicate → Nat
  | [] => 0
  | predicate :: rest => weight predicate + totalWeight rest

end

theorem weight_pos (predicate : Predicate) : 0 < weight predicate := by
  cases predicate <;> simp [weight]

theorem totalWeight_eq_sum (predicates : List Predicate) :
    totalWeight predicates = (predicates.map weight).sum := by
  induction predicates with
  | nil => rfl
  | cons predicate rest ih => rw [totalWeight, ih, List.map_cons, List.sum_cons]

theorem totalWeight_append (first second : List Predicate) :
    totalWeight (first ++ second) = totalWeight first + totalWeight second := by
  simp [totalWeight_eq_sum]

/-- A weight that leaves room for the joins, a view and an outer test. -/
def maxWeight : Nat := 980

/-- The depth of the deepest single test, a negated one of colours. -/
def maxSingleDepth : Nat := 9

/-! ## Reading -/

/-- Nothing that has been read exceeds the bounds. -/
structure Reading.IsBounded (reading : Reading) (parameters depth : Nat) : Prop where
  parameters : reading.parameters ≤ parameters
  depth : reading.depth ≤ depth

theorem connect_of_le {first second bound : Nat} (hfirst : first ≤ bound) (hsecond : second ≤ bound)
    (hbound : bound < maxDepth) :
    ∃ depth, connect first second = .ok depth ∧ depth ≤ bound + 1 := by
  have hmax : max first second ≤ bound := Nat.max_le.mpr ⟨hfirst, hsecond⟩
  exact ⟨max first second + 1, if_pos (by omega), by omega⟩

theorem signedDepth_le {depth bound : Nat} (h : depth ≤ bound) (negated : Bool) :
    signedDepth depth negated ≤ bound + 1 := by
  unfold signedDepth
  split <;> omega

/-- A list of values is read when there are few question marks. -/
theorem exists_read_oneOf {parameters : Nat} {column : Column} {values : List String}
    {negated : Bool}
    (h : parameters + values.length ≤ maxParameters) :
    ∃ reading, readPredicate parameters (.oneOf column values negated) = .ok reading ∧
      reading.IsBounded (parameters + values.length) maxSingleDepth := by
  have hadmit : admitParameters (parameters + values.length) = .ok (parameters + values.length) :=
    if_pos h
  rw [readPredicate, hadmit]
  have hsingle : (if values.length = 1 then comparisonDepth else listDepth) ≤ comparisonDepth := by
    split <;> decide
  exact ⟨_, rfl, Nat.le_refl _, Nat.le_trans (signedDepth_le hsingle negated) (by decide)⟩

theorem exists_read_contains {parameters : Nat} {column : Column} {needle : String} {negated : Bool}
    (h : parameters + 1 ≤ maxParameters) :
    ∃ reading, readPredicate parameters (.contains column needle negated) = .ok reading ∧
      reading.IsBounded (parameters + 1) maxSingleDepth := by
  have hadmit : admitParameters (parameters + 1) = .ok (parameters + 1) := if_pos h
  rw [readPredicate, hadmit]
  exact ⟨_, rfl, Nat.le_refl _, Nat.le_trans (signedDepth_le (Nat.le_refl _) negated) (by decide)⟩

mutual

/-- A predicate of little weight can be read behind few question marks. -/
theorem exists_readPredicate {parameters start : Nat} (hstart : parameters ≤ start) :
    ∀ predicate : Predicate, start + weight predicate ≤ maxWeight →
      ∃ reading, readPredicate parameters predicate = .ok reading ∧
        reading.IsBounded (start + weight predicate) (maxSingleDepth + weight predicate)
  | .tagged tag negated, _ =>
    ⟨_, by rw [readPredicate], Nat.le_add_right_of_le hstart,
      Nat.le_add_right_of_le (Nat.le_trans (signedDepth_le (Nat.le_refl _) negated) (by decide))⟩
  | .oneOf column values negated, h => by
    rw [weight] at h ⊢
    have hcount : parameters + values.length ≤ maxParameters := by
      simp only [maxWeight, maxParameters] at h ⊢
      omega
    obtain ⟨reading, hread, hparameters, hdepth⟩ := @exists_read_oneOf _ column _ negated hcount
    exact ⟨reading, hread, by omega, by omega⟩
  | .contains column needle negated, h => by
    rw [weight] at h ⊢
    have hcount : parameters + 1 ≤ maxParameters := by
      simp only [maxWeight, maxParameters] at h ⊢
      omega
    obtain ⟨reading, hread, hparameters, hdepth⟩ :=
      @exists_read_contains _ column needle negated hcount
    exact ⟨reading, hread, by omega, by omega⟩
  | .colorExact relation mask negated, _ =>
    ⟨_, by rw [readPredicate], Nat.le_add_right_of_le hstart,
      Nat.le_add_right_of_le (signedDepth_le (Nat.le_refl _) negated)⟩
  | .anyOf [], _ =>
    ⟨_, by rw [readPredicate], Nat.le_add_right_of_le hstart, Nat.zero_le _⟩
  | .anyOf (predicate :: rest), h => by
    rw [weight, totalWeight] at h ⊢
    obtain ⟨reading, hread, hreading⟩ := exists_readPredicate hstart predicate (by omega)
    obtain ⟨last, hlast, hparameters, hdepth⟩ :=
      exists_readFurther hreading (weight_pos predicate) (by omega) rest (by omega)
    refine ⟨last, ?_, by omega, by omega⟩
    rw [readPredicate, hread]
    exact hlast

/-- Each further predicate adds its weight at most. -/
theorem exists_readFurther {reading : Reading} {start soFar : Nat}
    (h : reading.IsBounded start (maxSingleDepth + soFar)) (hpos : 0 < soFar)
    (hle : soFar ≤ start) :
    ∀ predicates : List Predicate, start + totalWeight predicates ≤ maxWeight →
      ∃ last, readFurther reading predicates = .ok last ∧
        last.IsBounded (start + totalWeight predicates)
          (maxSingleDepth + soFar + totalWeight predicates)
  | [], _ => ⟨reading, by rw [readFurther], h⟩
  | predicate :: rest, hrest => by
    rw [totalWeight] at hrest ⊢
    have hweight := weight_pos predicate
    obtain ⟨next, hnext, hnextParameters, hnextDepth⟩ :=
      exists_readPredicate h.parameters predicate (by omega)
    have hbound : maxSingleDepth + soFar + weight predicate - 1 < maxDepth := by
      simp only [maxSingleDepth, maxWeight, maxDepth] at hrest ⊢
      omega
    have hsoFar : reading.depth ≤ maxSingleDepth + soFar + weight predicate - 1 := by
      have hdepth := h.depth
      omega
    obtain ⟨depth, hconnect, hdepth⟩ := connect_of_le hsoFar (by omega : next.depth ≤ _) hbound
    have hbounded : Reading.IsBounded ⟨next.parameters, depth⟩ (start + weight predicate)
        (maxSingleDepth + (soFar + weight predicate)) :=
      ⟨hnextParameters, Nat.le_trans hdepth (by omega)⟩
    obtain ⟨last, hlast, hparameters, hlastDepth⟩ :=
      exists_readFurther hbounded (by omega) (by omega) rest (by omega)
    refine ⟨last, ?_, by omega, by omega⟩
    rw [readFurther, hnext]
    simp only [Bind.bind, Except.bind, hconnect]
    exact hlast

end

/-! ## Plans -/

/-- The condition of a plan of little weight. -/
theorem exists_readCondition {plan : Plan} (h : totalWeight plan.predicates ≤ maxWeight) :
    ∃ depth, readCondition plan = .ok depth ∧ depth ≤ maxSingleDepth + maxWeight + 1 := by
  unfold readCondition
  split
  · exact ⟨_, rfl, by decide⟩
  · rename_i predicate rest hpredicates
    rw [hpredicates, totalWeight] at h
    obtain ⟨reading, hread, hreading⟩ :=
      exists_readPredicate (Nat.le_refl 0) predicate (by omega)
    obtain ⟨last, hlast, -, hdepth⟩ :=
      exists_readFurther hreading (weight_pos predicate) (by omega) rest (by omega)
    obtain ⟨depth, hconnect, hle⟩ :=
      connect_of_le (by omega : last.depth ≤ maxSingleDepth + maxWeight)
      (by decide : comparisonDepth ≤ maxSingleDepth + maxWeight) (by decide)
    refine ⟨depth, ?_, hle⟩
    rw [hread]
    simp only [Bind.bind, Except.bind, hlast, hconnect]

/-- Each join makes a condition deeper by one. -/
theorem exists_joinDepth {bound : Nat} (hbound : comparisonDepth ≤ bound) :
    ∀ (joins : List Relation) {depth : Nat}, depth ≤ bound → bound + joins.length ≤ maxDepth →
      ∃ last, joins.foldlM (fun depth _ => connect depth comparisonDepth) depth = .ok last ∧
        last ≤ bound + joins.length
  | [], depth, hdepth, _ => ⟨depth, rfl, hdepth⟩
  | _ :: rest, depth, hdepth, h => by
    rw [List.length_cons] at h ⊢
    obtain ⟨next, hnext, hle⟩ := connect_of_le hdepth hbound (by omega)
    obtain ⟨last, hlast, hlastle⟩ := exists_joinDepth (Nat.le_succ_of_le hbound) rest hle (by omega)
    refine ⟨last, ?_, by omega⟩
    rw [List.foldlM_cons, hnext]
    exact hlast

/-- A plan of few tests and values is within the limits. -/
theorem withinLimits_of_totalWeight {plan : Plan}
    (hweight : totalWeight plan.predicates ≤ maxWeight)
    (hjoins : plan.joins.length ≤ 4) (hshort : ∀ needle ∈ plan.needles, isTooLong needle = false)
    (outer : OuterTest) : WithinLimits plan outer := by
  obtain ⟨read, hread, hreadle⟩ := exists_readCondition hweight
  simp only [maxSingleDepth, maxWeight] at hreadle
  obtain ⟨joined, hjoined, hjoinedle⟩ := exists_joinDepth (by decide : comparisonDepth ≤ 990)
    plan.joins hreadle (by simp only [maxDepth]; omega)
  have hconditions : joinConditions plan read = .ok joined := by
    have hview : admitDepth (joined + viewDepth) = .ok (joined + viewDepth) :=
      if_pos (by simp only [viewDepth, maxDepth]; omega)
    rw [joinConditions, hjoined]
    simp only [Bind.bind, Except.bind, hview]
    split <;> rfl
  have houter : ∃ depth, outer.connect joined = .ok depth := by
    obtain ⟨depth, hdepth, -⟩ := connect_of_le (by omega : joined ≤ 994)
      (by decide : filledDepth ≤ 994) (by decide)
    cases outer with
    | nothing => exact ⟨joined, rfl⟩
    | constant | name | never => exact ⟨depth, hdepth⟩
  obtain ⟨depth, hdepth⟩ := houter
  refine ⟨⟨depth, ?_⟩, hshort⟩
  rw [statementDepth, hread]
  simp only [Bind.bind, Except.bind, hconditions, hdepth]

/-! ## Queries -/

theorem totalWeight_eq_length {tests : List Predicate} (h : ∀ test ∈ tests, weight test = 1) :
    totalWeight tests = tests.length := by
  induction tests with
  | nil => rfl
  | cons test rest ih =>
    rw [List.forall_mem_cons] at h
    rw [totalWeight, h.1, ih h.2, List.length_cons, Nat.add_comm]

/-- A choice of tests costs no more than two for each. -/
theorem totalWeight_choiceTests {included excluded : List Predicate}
    (hincluded : ∀ test ∈ included, weight test = 1)
    (hexcluded : ∀ test ∈ excluded, weight test = 1) :
    totalWeight (Plan.choiceTests included excluded) ≤ 2 * (included.length + excluded.length) := by
  have hchoice : totalWeight (Predicate.disjunction included).toList ≤ 2 * included.length := by
    have htotal := totalWeight_eq_length hincluded
    match included with
    | [] => exact Nat.le_refl _
    | [test] =>
      rw [Predicate.disjunction, Option.toList_some, htotal]
      exact Nat.le_mul_of_pos_left _ Nat.two_pos
    | first :: second :: rest =>
      simp only [Predicate.disjunction, Option.toList_some, List.length_cons] at htotal ⊢
      rw [totalWeight, weight, htotal, totalWeight]
      omega
  rw [Plan.choiceTests, totalWeight_append, totalWeight_eq_length hexcluded]
  omega

theorem totalWeight_nameTests (column : Column) (positives negatives : List String) :
    totalWeight (Plan.nameTests column positives negatives) ≤
      2 * (positives.length + negatives.length) := by
  have hpart : ∀ (values : List String) (negated : Bool),
      totalWeight (if values.isEmpty then [] else [.oneOf column values negated]) ≤
        2 * values.length := by
    intro values negated
    cases values with
    | nil => exact Nat.le_refl _
    | cons value rest =>
      simp only [List.isEmpty_cons, Bool.false_eq_true, if_false, totalWeight, weight,
        List.length_cons]
      omega
  have hpositives := hpart positives false
  have hnegatives := hpart negatives true
  rw [Plan.nameTests, totalWeight_append]
  omega

theorem weight_of_atom? {field : Field} (hname : field ≠ .name) (hset : field ≠ .set)
    {negated : Bool}
    {content : String} {atom : Predicate} (h : Plan.atom? field negated content = some atom) :
    weight atom = 1 := by
  unfold Plan.atom? at h
  cases field with
  | name => exact absurd rfl hname
  | set => exact absurd rfl hset
  | color | colorIdentity | type | supertype | rarity =>
    obtain ⟨_, -, rfl⟩ := Option.map_eq_some_iff.mp h
    rw [weight]
  | subtype =>
    dsimp only at h
    split at h
    · cases h
    · cases h
      rw [weight]
  | unknown word => cases h

/-- A field costs no more than two for each of its terms. -/
theorem totalWeight_fieldTests (field : Field) (terms : List String) :
    totalWeight (Plan.fieldTests field terms) ≤ 2 * terms.length := by
  have hlength := Negation.length_split terms
  by_cases hname : field = .name
  · subst hname
    rw [← hlength]
    exact totalWeight_nameTests _ _ _
  by_cases hset : field = .set
  · subst hset
    have hnames := totalWeight_nameTests .setCode ((Negation.positives terms).map Text.uppercased)
      ((Negation.negatives terms).map Text.uppercased)
    rw [List.length_map, List.length_map, hlength] at hnames
    exact hnames
  have hsingle : ∀ (negated : Bool) (values : List String),
      ∀ test ∈ values.filterMap (Plan.atom? field negated), weight test = 1 := by
    intro negated values test htest
    obtain ⟨value, -, hvalue⟩ := List.mem_filterMap.mp htest
    exact weight_of_atom? hname hset hvalue
  have hincluded := List.length_filterMap_le (Plan.atom? field false) (Negation.positives terms)
  have hexcluded := List.length_filterMap_le (Plan.atom? field true) (Negation.negatives terms)
  have hchoice := totalWeight_choiceTests (hsingle false (Negation.positives terms))
    (hsingle true (Negation.negatives terms))
  rw [Plan.fieldTests_eq_choiceTests hname hset]
  omega

/-- How many terms a query has. -/
def termCount (query : Query) : Nat :=
  (query.fields.map fun (_, terms) => terms.length).sum

theorem totalWeight_ofQuery (query : Query) :
    totalWeight (Plan.ofQuery query).predicates ≤ 2 * termCount query := by
  rw [Plan.predicates_ofQuery, termCount]
  induction query.fields with
  | nil => exact Nat.le_refl _
  | cons entry rest ih =>
    have hfield := totalWeight_fieldTests entry.1 entry.2
    rw [List.flatMap_cons, totalWeight_append, List.map_cons, List.sum_cons]
    dsimp only at ih ⊢
    omega

/-- There are four relations that could be joined. -/
theorem length_joins_ofQuery (query : Query) : (Plan.ofQuery query).joins.length ≤ 4 := by
  have hnodup : (Plan.ofQuery query).joins.Nodup :=
    Plan.nodup_joins_withFields List.nodup_nil query.fields
  have hsubset : (Plan.ofQuery query).joins ⊆ [.cards, .setMembership, .color, .colorIdentity] := by
    intro relation _
    cases relation <;> decide
  exact (List.subperm_of_subset hnodup hsubset).length_le

mutual

/-- What is looked for is one of the atoms. -/
theorem contains_mem_atoms {column : Column} {needle : String} {negated : Bool} :
    ∀ predicate : Predicate, .contains column needle negated ∈ predicate.alternatives →
      .contains column needle negated ∈ predicate.atoms
  | .anyOf predicates, h => contains_mem_atomsAll predicates h
  | .contains .., h => h
  | .tagged .., h | .oneOf .., h | .colorExact .., h => by cases List.mem_singleton.mp h

theorem contains_mem_atomsAll {column : Column} {needle : String} {negated : Bool} :
    ∀ predicates : List Predicate,
      .contains column needle negated ∈ Predicate.alternativesOfAll predicates →
        .contains column needle negated ∈ Predicate.atomsAll predicates
  | [], h => h
  | predicate :: rest, h => by
    rw [Predicate.alternativesOfAll, List.mem_append] at h
    rw [Predicate.atomsAll, List.mem_append]
    exact h.imp (contains_mem_atoms predicate) (contains_mem_atomsAll rest)

end

theorem eq_of_atom?_contains {field : Field} {negated negated' : Bool} {content needle : String}
    {column : Column}
    (h : Plan.atom? field negated content = some (.contains column needle negated')) :
    field = .subtype ∧ content = needle := by
  unfold Plan.atom? at h
  cases field with
  | subtype =>
    dsimp only at h
    split at h
    · cases h
    · cases h
      exact ⟨rfl, rfl⟩
  | name | set | unknown => cases h
  | color | colorIdentity | type | supertype | rarity =>
    obtain ⟨_, -, hcontains⟩ := Option.map_eq_some_iff.mp h
    cases hcontains

/-- A needle is what a term for the subtype says. -/
theorem exists_of_mem_needles {query : Query} {needle : String}
    (h : needle ∈ (Plan.ofQuery query).needles) :
    ∃ terms, (.subtype, terms) ∈ query.fields ∧ ∃ term ∈ terms, Negation.content term = needle := by
  obtain ⟨test, htest, hneedle⟩ := List.mem_filterMap.mp h
  cases test with
  | contains column found negated =>
    obtain rfl := Option.some.inj hneedle
    have hatom := contains_mem_atomsAll _ htest
    rw [Predicate.atomsAll_eq, ← Plan.atoms, Plan.atoms_ofQuery, List.mem_flatMap] at hatom
    obtain ⟨⟨field, terms⟩, hentry, hterms⟩ := hatom
    obtain ⟨term, hterm, hatom⟩ := List.mem_filterMap.mp hterms
    obtain ⟨rfl, hcontent⟩ := eq_of_atom?_contains hatom
    exact ⟨terms, hentry, term, (Negation.ordered_perm terms).mem_iff.mp hterm, hcontent⟩
  | tagged | oneOf | colorExact | anyOf => cases hneedle

/-- What a term says has no more bytes than the term. -/
theorem byteCount_content_le (term : String) :
    Text.byteCount (Negation.content term).toList ≤ Text.byteCount term.toList := by
  rw [Negation.content]
  cases h : Negation.negated? term with
  | none => exact Nat.le_refl _
  | some rest =>
    rw [Negation.negated?_eq_some_iff.mp h, Negation.negation, String.toList_ofList]
    exact Nat.le_add_left _ _

/-- **Main theorem.** A query of at most four hundred and ninety terms, of which none for the
    subtype has more than 24999 bytes, is within the limits, whatever is asked of it. -/
theorem withinLimits_ofQuery {query : Query} (hterms : termCount query ≤ 490)
    (hbytes : ∀ terms, (.subtype, terms) ∈ query.fields → ∀ term ∈ terms,
      Text.byteCount term.toList ≤ 24999)
    (outer : OuterTest) : WithinLimits (Plan.ofQuery query) outer := by
  have hweight := totalWeight_ofQuery query
  refine withinLimits_of_totalWeight (by simp only [maxWeight]; omega) (length_joins_ofQuery query)
    ?_ outer
  intro needle hneedle
  obtain ⟨terms, hentry, term, hterm, rfl⟩ := exists_of_mem_needles hneedle
  have hcontent := byteCount_content_le term
  have hterm := hbytes terms hentry term hterm
  apply isTooLong_of_byteCount
  simp only [maxPatternBytes]
  omega

/-! ## Beyond the limits -/

/-- Five hundred subtypes to choose from, then six hundred rarities that are barred. -/
def deepQuery : Query where
  fields := [(.subtype, List.replicate 500 "a"), (.rarity, List.replicate 600 "!c")]

/-- The same with the rarities first. -/
def shallowQuery : Query where
  fields := [(.rarity, List.replicate 600 "!c"), (.subtype, List.replicate 500 "a")]

/-- Behind a deep choice every test makes the condition deeper. -/
theorem readCondition_deepQuery : readCondition (Plan.ofQuery deepQuery) = .error .depth := by
  decide +kernel

/-- In front of it they do not. -/
theorem withinLimits_shallowQuery : WithinLimits (Plan.ofQuery shallowQuery) .nothing := by
  decide +kernel

/-- Plain terms for the subtype are alternatives. -/
theorem ofQuery_subtype {terms : List String}
    (h : ∀ term ∈ terms, Negation.negated? term = none ∧ term ≠ "") :
    Plan.ofQuery ⟨[(.subtype, terms)]⟩ = { predicates :=
      (Predicate.disjunction (terms.map fun term => .contains .typeLine term false)).toList } := by
  have hpositives : Negation.positives terms = terms := by
    rw [Negation.positives, List.filter_eq_self]
    intro term hterm
    rw [(h term hterm).1]
    rfl
  have hnegatives : Negation.negatives terms = [] := by
    rw [Negation.negatives, List.filterMap_eq_nil_iff]
    exact fun term hterm => (h term hterm).1
  have hfilled : terms.filter (· ≠ "") = terms := by
    rw [List.filter_eq_self]
    exact fun term hterm => decide_eq_true (h term hterm).2
  change ({} : Plan).withSubtypes (Negation.positives terms) (Negation.negatives terms) = _
  rw [hpositives, hnegatives, Plan.withSubtypes, Plan.withTests_eq, Plan.subtypeTests, hfilled]
  simp [Plan.choiceTests, Plan.subtypeTests]

/-- A needle whose pattern is too long. -/
def longNeedle : String :=
  String.ofList (List.replicate (maxPatternBytes + 1) 'z')

theorem toList_longNeedle : longNeedle.toList = List.replicate (maxPatternBytes + 1) 'z' :=
  String.toList_ofList

theorem isTooLong_longNeedle : isTooLong longNeedle = true := by
  apply isTooLong_of_length
  rw [toList_longNeedle, List.length_replicate]
  omega

/-- Elves, or cards of a subtype that is too long to be looked for. -/
def riskyQuery : Query where
  fields := [(.subtype, ["Elf", longNeedle])]

theorem ofQuery_riskyQuery : Plan.ofQuery riskyQuery =
    { predicates := [.anyOf [.contains .typeLine "Elf" false,
        .contains .typeLine longNeedle false]] } := by
  have hhead : longNeedle.toList.head? = some 'z' := by
    rw [toList_longNeedle, List.replicate_succ, List.head?_cons]
  have hunmarked : Negation.negated? longNeedle = none := by
    rw [Negation.negated?_eq_none_iff, hhead]
    decide
  have hfilled : longNeedle ≠ "" := by
    intro hempty
    rw [hempty] at hhead
    cases hhead
  rw [riskyQuery, ofQuery_subtype]
  · rfl
  · intro term hterm
    rcases List.mem_pair.mp hterm with rfl | rfl
    · exact ⟨by decide, by decide⟩
    · exact ⟨hunmarked, hfilled⟩

/-- The statement itself is not refused, whatever the store holds. -/
theorem statementDepth_riskyQuery : ∃ depth, statementDepth (.ofQuery riskyQuery) .nothing =
    .ok depth := by
  rw [ofQuery_riskyQuery]
  exact ⟨_, rfl⟩

end CardCensus.Sql

namespace CardCensus.Store

/-- A card that is no elf comes upon the needle that is too long. -/
theorem meetsLongPattern_riskyQuery (tables : Tables) :
    tables.meetsLongPattern (.ofQuery Sql.riskyQuery) .nothing =
      !tables.baseRows.all fun row => passes tables row (.contains .typeLine "Elf" false) := by
  have helf : Sql.isTooLong "Elf" = false := by decide
  rw [Sql.ofQuery_riskyQuery, List.not_all_eq_any_not]
  change tables.baseRows.any (fun row => meetsAll tables row
    [.anyOf [.contains .typeLine "Elf" false, .contains .typeLine Sql.longNeedle false]]) = _
  simp only [meetsAll, meets, meetsAny, helf, Sql.isTooLong_longNeedle, Bool.false_or,
    Bool.and_true, Bool.and_false, Bool.or_false]

/-- Where all cards are elves, the needle that is too long changes nothing. -/
theorem retained_riskyQuery {tables : Tables} (h : (tables.baseRows.all fun row =>
    passes tables row (.contains .typeLine "Elf" false)) = true) :
    tables.retained (.ofQuery Sql.riskyQuery) = tables.retained {} := by
  rw [Sql.ofQuery_riskyQuery]
  apply List.filter_congr
  intro row hrow
  have hany : passes tables row (.anyOf [.contains .typeLine "Elf" false,
      .contains .typeLine Sql.longNeedle false]) = true := by
    rw [passes, passesAny, List.all_eq_true.mp h row hrow, Bool.true_or]
  rw [List.all_cons, hany, Bool.true_and]

end CardCensus.Store
