import CardCensus.Proofs.Store.Grouping
import CardCensus.Store.Aggregate

/-!
# Answers without row numbers

Row numbers decide which printing stands for a name, but only by their order, and rows are joined in
this order. So the grouped relation can be told, its own row numbers apart, from the retained rows
without theirs. An aggregate sees row numbers only where it is taken of them.

Results:
* `pairwise_joined`: rows are joined in the order of their numbers.
* `grouped_eq_firstOfNames`: the first retained row of a name stands for it.
* `firstOfNames_unnumbered`: without row numbers, the grouped relation is that of the rows without
  row numbers.
* `answerOf_grouped_eq`: retained rows that differ in their numbers only answer the same.
-/

namespace CardCensus.Store

/-- The row with no number of its own. -/
def JoinedRow.unnumbered (row : JoinedRow) : JoinedRow :=
  { row with number := 0 }

/-- The row with no number of its own. -/
def GroupedRow.unnumbered (row : GroupedRow) : GroupedRow :=
  { row with printing := 0 }

variable {tables : Tables} {plan : Plan}

/-! ## Joins and tests -/

theorem extend_unnumbered (row : JoinedRow) (relation : Relation) :
    tables.extend row.unnumbered relation =
      (tables.extend row relation).map JoinedRow.unnumbered := by
  cases relation with
  | cards => rfl
  | setMembership | color | colorIdentity =>
    simp only [Tables.extend, List.map_map]
    rfl

theorem foldl_joinWith_unnumbered (joins : List Relation) (rows : List JoinedRow) :
    joins.foldl tables.joinWith (rows.map JoinedRow.unnumbered) =
      (joins.foldl tables.joinWith rows).map JoinedRow.unnumbered := by
  induction joins generalizing rows with
  | nil => rfl
  | cons relation rest ih =>
    have hjoin : tables.joinWith (rows.map JoinedRow.unnumbered) relation =
        (tables.joinWith rows relation).map JoinedRow.unnumbered := by
      rw [Tables.joinWith, Tables.joinWith, List.flatMap_map, List.map_flatMap]
      exact List.flatMap_congr fun row _ => extend_unnumbered row relation
    rw [List.foldl_cons, List.foldl_cons, hjoin, ih]

mutual

/-- No test looks at row numbers. -/
theorem passes_unnumbered (row : JoinedRow) : ∀ predicate,
    passes tables row.unnumbered predicate = passes tables row predicate
  | .tagged _ _ => by
    rw [passes, passes]
    rfl
  | .oneOf column _ _ => by
    rw [passes, passes]
    cases column <;> rfl
  | .contains column _ _ => by
    rw [passes, passes]
    cases column <;> rfl
  | .colorExact relation _ _ => by
    rw [passes, passes]
    cases relation <;> rfl
  | .anyOf predicates => by rw [passes, passes, passesAny_unnumbered row predicates]

theorem passesAny_unnumbered (row : JoinedRow) : ∀ predicates,
    passesAny tables row.unnumbered predicates = passesAny tables row predicates
  | [] => by rw [passesAny, passesAny]
  | predicate :: rest => by
    rw [passesAny, passesAny, passes_unnumbered row predicate, passesAny_unnumbered row rest]

end

/-! ## The first row of each name -/

theorem pairwise_foldl_joinWith {rows : List JoinedRow}
    (h : rows.Pairwise fun a b => a.number ≤ b.number)
    (joins : List Relation) : (joins.foldl tables.joinWith rows).Pairwise fun a b =>
      a.number ≤ b.number := by
  induction joins generalizing rows with
  | nil => exact h
  | cons relation rest ih =>
    apply ih
    rw [Tables.joinWith, List.pairwise_flatMap]
    constructor
    · intro row _
      apply List.pairwise_of_forall_mem_list
      intro a ha b hb
      exact Nat.le_of_eq ((Tables.mem_extend ha).1.trans (Tables.mem_extend hb).1.symm)
    · refine h.imp fun hle a ha b hb => ?_
      rw [(Tables.mem_extend ha).1, (Tables.mem_extend hb).1]
      exact hle

/-- Rows are joined in the order of their numbers. -/
theorem pairwise_joined (tables : Tables) (plan : Plan) :
    (tables.joined plan).Pairwise fun a b => a.number ≤ b.number := by
  apply pairwise_foldl_joinWith
  rw [Tables.baseRows, List.pairwise_map]
  exact tables.cards.ascending.imp Nat.le_of_lt

/-- For each name the first row that has it, names in ascending order. -/
def firstOfNames (rows : List JoinedRow) : List GroupedRow :=
  (sortedDistinct (rows.map (·.card.name))).filterMap fun name =>
    (rows.find? (·.card.name == name)).map fun row => ⟨row.card, row.number⟩

/-- The first retained row of a name stands for it. -/
theorem grouped_eq_firstOfNames (tables : Tables) (plan : Plan) :
    tables.grouped plan = firstOfNames (tables.retained plan) := by
  have hordered : (tables.retained plan).Pairwise fun a b => ¬ b.before a := by
    refine ((pairwise_joined tables plan).sublist List.filter_sublist).imp fun hle => ?_
    rw [before_iff]
    exact Nat.not_lt.mpr hle
  rw [Tables.grouped, groupRows, firstOfNames]
  congr 1
  funext name
  rw [representative?, least?_eq_head? (hordered.sublist List.filter_sublist), List.head?_filter]

theorem firstOfNames_unnumbered (rows : List JoinedRow) :
    firstOfNames (rows.map JoinedRow.unnumbered) =
      (firstOfNames rows).map GroupedRow.unnumbered := by
  have hnames : (rows.map JoinedRow.unnumbered).map (·.card.name) = rows.map (·.card.name) := by
    rw [List.map_map]
    rfl
  rw [firstOfNames, hnames, firstOfNames, List.map_filterMap]
  congr 1
  funext name
  rw [List.find?_map, Option.map_map, Option.map_map]
  rfl

/-! ## Aggregates -/

/-- An operand of columns of the cards, or of none. -/
theorem value_unnumbered {operand : Operand} (h : operand ≠ .column .printing) (row : GroupedRow) :
    operand.value row.unnumbered = operand.value row := by
  cases operand with
  | column source =>
    cases source with
    | card column => rfl
    | printing => exact absurd rfl h
  | constant | rows => rfl

theorem cells_unnumbered {operand : Operand} (h : operand ≠ .column .printing)
    (rows : List GroupedRow) :
    (rows.map GroupedRow.unnumbered).map (fun row => operand.value row) = rows.map fun row =>
      operand.value row := by
  rw [List.map_map]
  exact List.map_congr_left fun row _ => value_unnumbered h row

/-- The row of a ranking with no number of its own. -/
def Ranked.unnumbered (ranked : Ranked) : Ranked :=
  { ranked with row := ranked.row.unnumbered }

theorem ranked_unnumbered {operand : Operand} (h : operand ≠ .column .printing)
    (rows : List GroupedRow) :
    ((rows.map GroupedRow.unnumbered).map fun row => Ranked.mk (operand.value row) row).filter
      (!·.cell.isNull) =
      ((rows.map fun row => Ranked.mk (operand.value row) row).filter (!·.cell.isNull)).map
        Ranked.unnumbered := by
  have hranked :
      (rows.map GroupedRow.unnumbered).map (fun row => Ranked.mk (operand.value row) row) =
      (rows.map fun row => Ranked.mk (operand.value row) row).map Ranked.unnumbered := by
    rw [List.map_map, List.map_map]
    apply List.map_congr_left
    intro row _
    show Ranked.mk (operand.value row.unnumbered) row.unnumbered =
      Ranked.mk (operand.value row) row.unnumbered
    rw [value_unnumbered h]
  rw [hranked, List.filter_map]
  rfl

/-- An aggregate that is not taken of the row numbers does not depend on them. -/
theorem answerOf_unnumbered {operand : Operand} (h : operand ≠ .column .printing) (verb : Verb)
    (column : String)
    (rows : List GroupedRow) :
    answerOf verb column operand (rows.map GroupedRow.unnumbered) =
      answerOf verb column operand rows := by
  have hextreme : ∀ verb, extreme? verb
      (((rows.map GroupedRow.unnumbered).map fun row => Ranked.mk (operand.value row) row).filter
        (!·.cell.isNull)) =
      (extreme? verb
        ((rows.map fun row => Ranked.mk (operand.value row) row).filter (!·.cell.isNull))).map
        Ranked.unnumbered := by
    intro verb
    rw [ranked_unnumbered h]
    exact least?_map (fun _ _ => rfl) _
  cases verb with
  | count | sum | average => simp only [answerOf, cells_unnumbered h]
  | minimum | maximum =>
    simp only [answerOf, hextreme]
    cases extreme? _ _ <;> rfl

/-- Only the column that is called so is that of the row numbers. -/
theorem ofWord_ne_printing {verb : Verb} {word : String} {operand : Operand}
    (h : Operand.ofWord verb word = .ok operand) (hword : Text.folded word ≠ "printing") :
    operand ≠ .column .printing := by
  rintro rfl
  rw [Operand.ofWord] at h
  split at h
  · rename_i role _
    cases role <;> cases verb <;> cases h
  · rw [Operand.ofName] at h
    split at h
    · rename_i found hfound
      cases h
      have hname := List.find?_some hfound
      exact hword (beq_iff_eq.mp hname).symm
    · split at h <;> cases h

/-- Retained rows that differ in their numbers only answer the same, unless they are asked for the
    numbers. -/
theorem answerOf_grouped_eq {a b : Tables}
    (h : (a.retained plan).map JoinedRow.unnumbered = (b.retained plan).map JoinedRow.unnumbered)
    {request : Request} (hcolumn : Text.folded request.column ≠ "printing") {operand : Operand}
    (hoperand : Operand.ofWord request.verb request.column = .ok operand) :
    answerOf request.verb request.column operand (a.grouped plan) =
      answerOf request.verb request.column operand (b.grouped plan) := by
  have hgrouped : (a.grouped plan).map GroupedRow.unnumbered =
      (b.grouped plan).map GroupedRow.unnumbered := by
    rw [grouped_eq_firstOfNames, grouped_eq_firstOfNames, ← firstOfNames_unnumbered, h,
      firstOfNames_unnumbered]
  have hnumbers : operand ≠ .column .printing := ofWord_ne_printing hoperand hcolumn
  rw [← answerOf_unnumbered hnumbers, hgrouped, answerOf_unnumbered hnumbers]

end CardCensus.Store
