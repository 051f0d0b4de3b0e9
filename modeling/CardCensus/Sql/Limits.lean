import CardCensus.Sql.Grouped

/-!
# Limits of statements

A statement is refused when it has too many question marks or when its condition is nested too
deeply. Both come to light while the condition is read from left to right: two conditions that are
connected are one condition, deeper by one than the deeper of the two. What is connected to it
later, behind the names of the tables, counts as well: the joins, the condition of a view that is
asked for a tag, and a test that the statement around the grouped relation adds.

A pattern that is too long is no fault of the statement. It is refused by the first row that is
tested against it.

Results:
* `isTooLong_of_length`, `isTooLong_of_byteCount`: which needles have too long a pattern.
* `WithinLimits.nothing`: a statement within the limits is so without the outer test.
-/

namespace CardCensus.Sql

/-- The most question marks of a statement. -/
def maxParameters : Nat := 32766

/-- The greatest depth of a condition. -/
def maxDepth : Nat := 1000

/-- The most bytes of a pattern. -/
def maxPatternBytes : Nat := 50000

/-- The depth of a comparison of a column that is named with its relation. -/
def comparisonDepth : Nat := 3

/-- The depth of a test of a column against a list of several values. -/
def listDepth : Nat := 2

/-- The depth of the condition of a view. -/
def viewDepth : Nat := 2

/-- The depth of a test that a column is filled. -/
def filledDepth : Nat := 2

/-- The depth, if a condition may have it. -/
def admitDepth (depth : Nat) : Except Limit Nat :=
  if depth ≤ maxDepth then .ok depth else .error .depth

/-- The number of question marks, if a statement may have it. -/
def admitParameters (count : Nat) : Except Limit Nat :=
  if count ≤ maxParameters then .ok count else .error .parameters

/-- The depth of two conditions that are connected. -/
def connect (first second : Nat) : Except Limit Nat :=
  admitDepth (max first second + 1)

/-- The depth of a test, or of its negation. -/
def signedDepth (depth : Nat) (negated : Bool) : Nat :=
  if negated then depth + 1 else depth

/-- What has been read: how many question marks so far, and the depth of the condition that has just
    been read. -/
structure Reading where
  parameters : Nat
  depth : Nat

mutual

/-- Reads a predicate behind a number of question marks. -/
def readPredicate (parameters : Nat) : Predicate → Except Limit Reading
  | .tagged _ negated => .ok ⟨parameters, signedDepth comparisonDepth negated⟩
  | .oneOf _ values negated => do
    let parameters ← admitParameters (parameters + values.length)
    -- A list of one value is read as a comparison with it.
    return ⟨parameters, signedDepth (if values.length = 1 then comparisonDepth else listDepth)
      negated⟩
  | .contains _ _ negated => do
    return ⟨← admitParameters (parameters + 1), signedDepth comparisonDepth negated⟩
  | .colorExact _ mask negated =>
    .ok ⟨parameters, signedDepth (comparisonDepth + (mask.flags.length - 1)) negated⟩
  | .anyOf [] => .ok ⟨parameters, 0⟩
  | .anyOf (predicate :: rest) => do readFurther (← readPredicate parameters predicate) rest

/-- Reads predicates that are connected, one by one, to what has been read. -/
def readFurther (reading : Reading) : List Predicate → Except Limit Reading
  | [] => .ok reading
  | predicate :: rest => do
    let next ← readPredicate reading.parameters predicate
    readFurther ⟨next.parameters, ← connect reading.depth next.depth⟩ rest

end

/-- The depth of the condition of a plan: its predicates, then the test that a row has a picture. -/
def readCondition (plan : Plan) : Except Limit Nat :=
  match plan.predicates with
  | [] => .ok comparisonDepth
  | predicate :: rest => do
    let reading ← readFurther (← readPredicate 0 predicate) rest
    connect reading.depth comparisonDepth

/-- The depth of the condition of a plan with the joins connected to it. The condition of a view has
    to find room below it. -/
def joinConditions (plan : Plan) (depth : Nat) : Except Limit Nat := do
  let depth ← plan.joins.foldlM (fun depth _ => connect depth comparisonDepth) depth
  if plan.singleTests.any Predicate.isTagTest then
    let _ ← admitDepth (depth + viewDepth)
  return depth

/-- The test that the statement around the grouped relation connects to the condition. -/
inductive OuterTest where
  | nothing
  /-- That a constant is filled. -/
  | constant
  /-- That the name is filled. -/
  | name
  /-- That the empty cell is filled, which no row passes. -/
  | never
  deriving Repr, DecidableEq

/-- The depth of a condition with an outer test connected to it. -/
def OuterTest.connect (outer : OuterTest) (depth : Nat) : Except Limit Nat :=
  match outer with
  | nothing => .ok depth
  | constant | name | never => Sql.connect depth filledDepth

/-- The depth of the whole condition of a statement, unless the statement is refused. -/
def statementDepth (plan : Plan) (outer : OuterTest) : Except Limit Nat := do
  outer.connect (← joinConditions plan (← readCondition plan))

/-- The pattern for a needle is too long. -/
def isTooLong (needle : String) : Bool :=
  maxPatternBytes < Text.byteCount (Text.containing needle.toList)

theorem isTooLong_of_length {needle : String} (h : maxPatternBytes ≤ needle.toList.length + 1) :
    isTooLong needle = true := by
  have hlength := Text.length_le_byteCount needle.toList
  have hescape := (Text.byteCount_escape needle.toList).1
  rw [isTooLong, decide_eq_true_iff, Text.byteCount_containing]
  omega

theorem isTooLong_of_byteCount {needle : String}
    (h : 2 * Text.byteCount needle.toList + 2 ≤ maxPatternBytes) : isTooLong needle = false := by
  have hescape := (Text.byteCount_escape needle.toList).2
  rw [isTooLong, decide_eq_false_iff_not, Text.byteCount_containing]
  omega

/-- Nothing about a statement exceeds a limit. -/
structure WithinLimits (plan : Plan) (outer : OuterTest) : Prop where
  /-- The statement is not refused. -/
  accepted : ∃ depth, statementDepth plan outer = .ok depth
  /-- No row can refuse a pattern. -/
  short : ∀ needle ∈ plan.needles, isTooLong needle = false

theorem exists_eq_ok_iff {ε α : Type} {result : Except ε α} :
    (∃ value, result = .ok value) ↔ result.toBool = true := by
  cases result <;> simp [Except.toBool]

instance (plan : Plan) (outer : OuterTest) : Decidable (WithinLimits plan outer) :=
  decidable_of_iff ((statementDepth plan outer).toBool = true ∧
      ∀ needle ∈ plan.needles, isTooLong needle = false)
    ⟨fun h => ⟨exists_eq_ok_iff.mpr h.1, h.2⟩, fun h => ⟨exists_eq_ok_iff.mp h.accepted, h.short⟩⟩

/-- What a statement that is not refused goes through. -/
theorem stages_of_statementDepth {plan : Plan} {outer : OuterTest} {depth : Nat}
    (h : statementDepth plan outer = .ok depth) :
    ∃ read joined, readCondition plan = .ok read ∧ joinConditions plan read = .ok joined ∧
      outer.connect joined = .ok depth := by
  unfold statementDepth at h
  cases hread : readCondition plan with
  | error limit =>
    rw [hread] at h
    cases h
  | ok read =>
    rw [hread] at h
    change (joinConditions plan read).bind outer.connect = .ok depth at h
    cases hjoined : joinConditions plan read with
    | error limit =>
      rw [hjoined] at h
      cases h
    | ok joined =>
      rw [hjoined] at h
      exact ⟨read, joined, rfl, hjoined, h⟩

/-- A statement within the limits is so without the outer test. -/
theorem WithinLimits.nothing {plan : Plan} {outer : OuterTest} (h : WithinLimits plan outer) :
    WithinLimits plan .nothing := by
  obtain ⟨depth, hdepth⟩ := h.accepted
  obtain ⟨read, joined, hread, hjoined, -⟩ := stages_of_statementDepth hdepth
  refine ⟨⟨joined, ?_⟩, h.short⟩
  rw [statementDepth, hread]
  change (joinConditions plan read).bind OuterTest.nothing.connect = .ok joined
  rw [hjoined]
  rfl

end CardCensus.Sql
