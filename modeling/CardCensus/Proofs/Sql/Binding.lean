import CardCensus.Proofs.Text.Case
import CardCensus.Sql.Grouped

/-!
# What a statement binds

The texts of a plan, that is the values and needles of its predicates, stand in no statement. Each
has a question mark in its place, and the question marks are bound from left to right. A statement
is laid out in pieces: characters that are written as they are, and values that a question mark
stands for. Every rule that puts a statement together puts its pieces together, so that the
parameters have the order of the question marks.

Results:
* `condition_blanked`: a condition is written without looking at the texts of its predicate.
* `Lays.append`, `LaysAll.joined`: how layouts are put together.
* `lays_condition`: the layout of a condition, however its disjunctions are nested.
* `statements_bind_texts`: the grouped relation and the statements of requests.
-/

namespace CardCensus

/-! ## Shapes -/

namespace Predicate

mutual

/-- The predicate with its texts left empty. -/
def blanked : Predicate → Predicate
  | tagged tag negated => .tagged tag negated
  | oneOf column values negated => .oneOf column (values.map fun _ => "") negated
  | contains column _ negated => .contains column "" negated
  | colorExact relation mask negated => .colorExact relation mask negated
  | anyOf predicates => .anyOf (allBlanked predicates)

/-- The predicates with their texts left empty. -/
def allBlanked : List Predicate → List Predicate
  | [] => []
  | predicate :: rest => blanked predicate :: allBlanked rest

end

end Predicate

/-- The plans differ in nothing but the texts of their predicates. -/
def Plan.SameShape (plan other : Plan) : Prop :=
  plan.joins = other.joins ∧ Predicate.allBlanked plan.predicates =
    Predicate.allBlanked other.predicates

namespace Sql

mutual

theorem condition_blanked : ∀ predicate : Predicate, condition predicate.blanked =
    condition predicate
  | .tagged _ _ | .contains _ _ _ | .colorExact _ _ _ => rfl
  | .oneOf column values negated => by
    rw [Predicate.blanked, condition, List.length_map, condition]
  | .anyOf predicates => by
    rw [Predicate.blanked, condition, conditions_allBlanked predicates, condition]

theorem conditions_allBlanked : ∀ predicates : List Predicate,
    conditions (Predicate.allBlanked predicates) = conditions predicates
  | [] => rfl
  | predicate :: rest => by
    rw [Predicate.allBlanked, conditions, condition_blanked predicate, conditions_allBlanked rest,
      conditions]

end

theorem groupedTextOver_congr {plan other : Plan} (h : plan.SameShape other) (base : Relation) :
    groupedTextOver base other = groupedTextOver base plan := by
  obtain ⟨hjoins, hpredicates⟩ := h
  have hconditions : conditions other.predicates = conditions plan.predicates := by
    rw [← conditions_allBlanked, ← hpredicates, conditions_allBlanked]
  have hstart : groupedStart base other = groupedStart base plan := by
    rw [groupedStart, joinLines, ← hjoins, groupedStart, joinLines]
  rw [groupedTextOver, hstart, hconditions, groupedTextOver]

theorem aggregateStatementOver_text_congr {plan other : Plan} (h : plan.SameShape other)
    (base : Relation)
    (request : Request) : (aggregateStatementOver base other request).map Statement.text =
      (aggregateStatementOver base plan request).map Statement.text := by
  unfold aggregateStatementOver
  split
  · have htext : aggregateTextOver base other request.verb request.column =
        aggregateTextOver base plan request.verb request.column := by
      rw [aggregateTextOver, groupedTextOver_congr h, aggregateTextOver]
    exact congrArg Except.ok htext
  · rfl

/-! ## Column names -/

/-- A letter of ASCII or an underscore. -/
def IsColumnStart (c : Char) : Prop :=
  ('A' ≤ c ∧ c ≤ 'Z') ∨ ('a' ≤ c ∧ c ≤ 'z') ∨ c = '_'

/-- A letter or an underscore, and after it letters, digits and underscores, all of ASCII. -/
def IsColumnName (text : String) : Prop :=
  ∃ first rest, text.toList = first :: rest ∧ IsColumnStart first ∧
    ∀ c ∈ rest, IsColumnStart c ∨ ('0' ≤ c ∧ c ≤ '9')

theorem isIdentifierStart_iff {c : Char} : isIdentifierStart c = true ↔ IsColumnStart c := by
  rw [isIdentifierStart, Bool.or_eq_true, beq_iff_eq, Text.isAlpha_iff, or_assoc]
  rfl

theorem isIdentifierPart_iff {c : Char} :
    isIdentifierPart c = true ↔ IsColumnStart c ∨ ('0' ≤ c ∧ c ≤ '9') := by
  have hdigit : c.isDigit = true ↔ '0' ≤ c ∧ c ≤ '9' := Text.isDigit_iff
  rw [isIdentifierPart, Char.isAlphanum, Bool.or_right_comm, Bool.or_eq_true, hdigit]
  exact or_congr_left isIdentifierStart_iff

theorem isIdentifier_iff {text : String} : isIdentifier text = true ↔ IsColumnName text := by
  unfold isIdentifier IsColumnName
  cases htext : text.toList with
  | nil => simp
  | cons first rest =>
    simp only [Bool.and_eq_true, List.all_eq_true, isIdentifierStart_iff, isIdentifierPart_iff]
    constructor
    · rintro ⟨hfirst, hrest⟩
      exact ⟨first, rest, rfl, hfirst, hrest⟩
    · rintro ⟨_, _, heq, hfirst, hrest⟩
      obtain ⟨rfl, rfl⟩ := List.cons.inj heq
      exact ⟨hfirst, hrest⟩

/-! ## Texts without question marks -/

/-- No question mark stands in the text. -/
def Unmarked (text : String) : Prop :=
  '?' ∉ text.toList

instance (text : String) : Decidable (Unmarked text) :=
  inferInstanceAs (Decidable ('?' ∉ text.toList))

@[simp] theorem unmarked_append_iff {a b : String} :
    Unmarked (a ++ b) ↔ Unmarked a ∧ Unmarked b := by
  rw [Unmarked, String.toList_append, List.mem_append, not_or]
  rfl

theorem Unmarked.append {a b : String} (ha : Unmarked a) (hb : Unmarked b) : Unmarked (a ++ b) :=
  unmarked_append_iff.mpr ⟨ha, hb⟩

theorem Unmarked.flatten {parts : List String} (h : ∀ part ∈ parts, Unmarked part) :
    Unmarked (String.join parts) := by
  induction parts with
  | nil => decide
  | cons part rest ih =>
    rw [List.forall_mem_cons] at h
    rw [String.join_cons]
    exact h.1.append (ih h.2)

theorem Unmarked.joined {separator : String} (hseparator : Unmarked separator) {parts : List String}
    (h : ∀ part ∈ parts, Unmarked part) : Unmarked (join separator parts) := by
  unfold join
  induction parts with
  | nil =>
    rw [String.intercalate_nil]
    decide
  | cons part rest ih =>
    rw [List.forall_mem_cons] at h
    by_cases hrest : rest = []
    · rw [hrest, String.intercalate_singleton]
      exact h.1
    · rw [String.intercalate_cons_of_ne_nil hrest]
      exact (h.1.append hseparator).append (ih h.2)

@[simp] theorem unmarked_table (relation : Relation) : Unmarked relation.table := by
  cases relation <;> decide

@[simp] theorem unmarked_display (column : Column) : Unmarked column.display := by
  cases column <;> decide

@[simp] theorem unmarked_negation (negated : Bool) : Unmarked (negation negated) := by
  cases negated <;> decide

@[simp] theorem unmarked_view (tag : Tag) : Unmarked tag.view := by
  cases tag <;> decide

theorem unmarked_flagTest {table : String} (htable : Unmarked table) {flag : String × Bool}
    (hflag : Unmarked flag.1) : Unmarked (flagTest table flag) := by
  obtain ⟨column, on⟩ := flag
  have hvalue : Unmarked (if on then "1" else "0") := by cases on <;> decide
  exact (((htable.append (by decide)).append hflag).append (by decide)).append hvalue

theorem unmarked_of_mem_flags {mask : ColorMask} {flag : String × Bool} (h : flag ∈ mask.flags) :
    Unmarked flag.1 := by
  rw [ColorMask.flags, List.mem_append, List.mem_map, List.mem_singleton] at h
  obtain ⟨channel, -, rfl⟩ | rfl := h
  · show Unmarked channel.column
    cases channel <;> decide
  · show Unmarked ColorMask.colorlessColumn
    decide

theorem unmarked_column {column : String} (h : IsColumnName column) : Unmarked column := by
  obtain ⟨first, rest, htext, hfirst, hrest⟩ := h
  have hstart : ¬ IsColumnStart '?' := by unfold IsColumnStart; decide
  have hpart : ¬ (IsColumnStart '?' ∨ ('0' ≤ '?' ∧ '?' ≤ '9')) := by unfold IsColumnStart; decide
  unfold Unmarked
  rw [htext, List.mem_cons, not_or]
  exact ⟨fun heq => hstart (heq ▸ hfirst), fun hmem => hpart (hrest _ hmem)⟩

/-! ## Layouts -/

/-- A piece of a statement. -/
inductive Piece where
  /-- A character that is written as it is. -/
  | char (c : Char)
  /-- A value that is bound; a question mark is written. -/
  | bound (value : Value)
  deriving DecidableEq

namespace Piece

/-- What is written for a piece. -/
def shown : Piece → Char
  | char c => c
  | bound _ => '?'

/-- What is bound for a piece. -/
def value? : Piece → Option Value
  | char _ => none
  | bound value => some value

end Piece

/-- The pieces of a text that binds nothing. -/
def literal (text : String) : List Piece :=
  text.toList.map .char

/-- The pieces with a text between them. -/
def joinPieces (separator : String) (parts : List (List Piece)) : List Piece :=
  (literal separator).intercalate parts

/-- The values take the places of the question marks, the first that of the first and so on. -/
def bind : List Char → List Value → List Piece
  | [], _ => []
  | '?' :: rest, value :: values => .bound value :: bind rest values
  | c :: rest, values => .char c :: bind rest values

/-- The pieces are written as the text and bind the values, and each question mark in the text is
    that of a value. -/
structure Lays (pieces : List Piece) (text : String) (values : List Value) : Prop where
  shown : text.toList = pieces.map Piece.shown
  bound : values = pieces.filterMap Piece.value?
  unmarked : Piece.char '?' ∉ pieces

/-- The lists of pieces lay the texts out, one by one, and bind the values all in all. -/
inductive LaysAll : List (List Piece) → List String → List Value → Prop
  | nil : LaysAll [] [] []
  | cons {pieces : List Piece} {text : String} {values others : List Value}
    {parts : List (List Piece)}
    {texts : List String} (first : Lays pieces text values) (rest : LaysAll parts texts others) :
    LaysAll (pieces :: parts) (text :: texts) (values ++ others)

namespace Lays

variable {pieces others : List Piece} {a b : String} {values values' : List Value}

theorem literal (h : Unmarked a) : Lays (literal a) a [] where
  shown := by
    rw [Sql.literal, List.map_map]
    exact (List.map_id _).symm
  bound := by
    rw [Sql.literal, List.filterMap_map]
    exact (List.filterMap_none _).symm
  unmarked := by
    rw [Sql.literal, List.mem_map]
    rintro ⟨c, hc, heq⟩
    rw [Piece.char.inj heq] at hc
    exact h hc

theorem value (value : Value) : Lays [.bound value] "?" [value] where
  shown := rfl
  bound := rfl
  unmarked := by simp

theorem append (ha : Lays pieces a values) (hb : Lays others b values') :
    Lays (pieces ++ others) (a ++ b) (values ++ values') where
  shown := by rw [String.toList_append, ha.shown, hb.shown, List.map_append]
  bound := by rw [ha.bound, hb.bound, List.filterMap_append]
  unmarked := by
    rw [List.mem_append, not_or]
    exact ⟨ha.unmarked, hb.unmarked⟩

/-- A text that binds nothing stands before the pieces. -/
theorem after (h : Lays pieces a values) (hb : Unmarked b) :
    Lays (Sql.literal b ++ pieces) (b ++ a) values :=
  (Lays.literal hb).append h

/-- A text that binds nothing stands behind the pieces. -/
theorem before (h : Lays pieces a values) (hb : Unmarked b) :
    Lays (pieces ++ Sql.literal b) (a ++ b) values := by
  have hboth := h.append (Lays.literal hb)
  rw [List.append_nil] at hboth
  exact hboth

theorem bind_shown {pieces : List Piece} (h : Piece.char '?' ∉ pieces) :
    bind (pieces.map Piece.shown) (pieces.filterMap Piece.value?) = pieces := by
  induction pieces with
  | nil => rfl
  | cons piece rest ih =>
    rw [List.mem_cons, not_or] at h
    cases piece with
    | bound value =>
      show .bound value :: bind _ _ = _
      rw [ih h.2]
    | char c =>
      have hc : c ≠ '?' := fun heq => h.1 (heq ▸ rfl)
      rw [List.map_cons, List.filterMap_cons_none rfl, Piece.shown, bind, ih h.2]
      exact fun _ _ _ hmark => hc hmark

theorem count_shown {pieces : List Piece} (h : Piece.char '?' ∉ pieces) :
    (pieces.map Piece.shown).count '?' = (pieces.filterMap Piece.value?).length := by
  induction pieces with
  | nil => rfl
  | cons piece rest ih =>
    rw [List.mem_cons, not_or] at h
    cases piece with
    | bound value =>
      show List.count '?' ('?' :: _) = _ + 1
      rw [List.count_cons_self, ih h.2]
    | char c =>
      have hc : c ≠ '?' := fun heq => h.1 (heq ▸ rfl)
      rw [List.map_cons, List.filterMap_cons_none rfl, ← ih h.2]
      exact List.count_cons_of_ne hc

/-- What the question marks of the text are bound to. -/
theorem bind_eq (h : Lays pieces a values) : bind a.toList values = pieces := by
  rw [h.shown, h.bound]
  exact bind_shown h.unmarked

/-- There are as many question marks as values. -/
theorem count_eq (h : Lays pieces a values) : a.toList.count '?' = values.length := by
  rw [h.shown, h.bound]
  exact count_shown h.unmarked

end Lays

namespace LaysAll

variable {parts : List (List Piece)} {texts : List String} {values : List Value}

theorem concat (h : LaysAll parts texts values) {text : String} (htext : Unmarked text) :
    LaysAll (parts ++ [literal text]) (texts ++ [text]) values := by
  induction h with
  | nil => exact .cons (.literal htext) .nil
  | cons first _ ih => exact .cons first ih

/-- One question mark for each value. -/
theorem marks (values : List Value) :
    LaysAll (values.map fun value => [.bound value]) (List.replicate values.length "?") values := by
  induction values with
  | nil => exact .nil
  | cons value rest ih => exact .cons (.value value) ih

theorem joined (h : LaysAll parts texts values) (separator : String)
    (hseparator : Unmarked separator) :
    Lays (joinPieces separator parts) (join separator texts) values := by
  unfold joinPieces join
  induction h with
  | nil => exact .literal (a := "") (by decide)
  | cons first rest ih =>
    cases rest with
    | nil =>
      rw [String.intercalate_singleton, List.intercalate_singleton, List.append_nil]
      exact first
    | cons =>
      rw [String.intercalate_cons_cons, List.intercalate_cons_cons]
      exact (first.before hseparator).append ih

end LaysAll

/-! ## Conditions -/

mutual

/-- The layout of a condition: each text stands where it is looked for, a needle as a pattern. -/
def conditionPieces : Predicate → List Piece
  | .tagged tag negated => literal (condition (.tagged tag negated))
  | .oneOf column values negated =>
    literal (column.display ++ " COLLATE NOCASE " ++ negation negated ++ "IN (") ++
      joinPieces ", " (values.map fun value => [.bound (.text value)]) ++ literal ")"
  | .contains column needle negated =>
    literal (column.display ++ " " ++ negation negated) ++
      (literal "LIKE " ++ [.bound (.text (String.ofList (Text.containing needle.toList)))] ++
        literal " ESCAPE '\\'")
  | .colorExact relation mask negated => literal (condition (.colorExact relation mask negated))
  | .anyOf predicates =>
    literal "(" ++ joinPieces " OR " (conditionsPieces predicates) ++ literal ")"

/-- The layouts of conditions. -/
def conditionsPieces : List Predicate → List (List Piece)
  | [] => []
  | predicate :: rest => conditionPieces predicate :: conditionsPieces rest

end

theorem unmarked_tagged (tag : Tag) (negated : Bool) :
    Unmarked (condition (.tagged tag negated)) := by
  have hstart : Unmarked ("cards.id " ++ negation negated) :=
    .append (by decide) (unmarked_negation negated)
  exact ((hstart.append (by decide)).append (unmarked_view tag)).append (by decide)

theorem unmarked_colorExact (relation : Relation) (mask : ColorMask) (negated : Bool) :
    Unmarked (condition (.colorExact relation mask negated)) := by
  have hflags : Unmarked (join " AND " (mask.flags.map (flagTest relation.table))) := by
    apply Unmarked.joined (by decide)
    intro part hpart
    obtain ⟨flag, hflag, rfl⟩ := List.mem_map.mp hpart
    exact unmarked_flagTest (unmarked_table relation) (unmarked_of_mem_flags hflag)
  exact (((unmarked_negation negated).append (by decide)).append hflags).append (by decide)

mutual

/-- A condition is laid out with the texts that its predicate binds, in their order. -/
theorem lays_condition : ∀ predicate : Predicate,
    Lays (conditionPieces predicate) (condition predicate) ((boundTexts predicate).map .text)
  | .tagged tag negated => .literal (unmarked_tagged tag negated)
  | .colorExact relation mask negated => .literal (unmarked_colorExact relation mask negated)
  | .oneOf column values negated => by
    have hstart : Unmarked (column.display ++ " COLLATE NOCASE " ++ negation negated ++ "IN (") :=
      (((unmarked_display column).append (by decide)).append (unmarked_negation negated)).append
        (by decide)
    -- Without values nothing stands between the brackets, and nothing is bound.
    have hvalues := (LaysAll.marks (values.map Value.text)).joined ", " (by decide)
    rw [List.map_map, List.length_map] at hvalues
    exact (hvalues.after hstart).before (by decide)
  | .contains column needle negated => by
    have hstart : Unmarked (column.display ++ " " ++ negation negated) :=
      ((unmarked_display column).append (by decide)).append (unmarked_negation negated)
    -- The question mark stands in the middle of a fixed text, which has to be taken apart at it.
    have hlike : "LIKE ? ESCAPE '\\'" = "LIKE " ++ "?" ++ " ESCAPE '\\'" := by decide
    have hneedle := Lays.value (.text (String.ofList (Text.containing needle.toList)))
    rw [condition, hlike]
    exact ((hneedle.after (by decide)).before (by decide)).after hstart
  | .anyOf predicates => by
    have hjoined := (laysAll_conditions predicates).joined " OR " (by decide)
    exact (hjoined.after (by decide)).before (by decide)

theorem laysAll_conditions : ∀ predicates : List Predicate,
    LaysAll (conditionsPieces predicates) (conditions predicates)
      ((boundTextsAll predicates).map .text)
  | [] => .nil
  | predicate :: rest => by
    rw [boundTextsAll, List.map_append]
    exact .cons (lays_condition predicate) (laysAll_conditions rest)

end

/-! ## Statements -/

/-- The layout of the grouped relation. -/
def groupedPieces (base : Relation) (plan : Plan) : List Piece :=
  literal (groupedStart base plan ++ "\nWHERE ") ++
    joinPieces "\n  AND " (conditionsPieces plan.predicates ++ [literal (pictureCondition base)]) ++
    literal (groupedEnd base)

/-- The layout of an aggregate over the grouped relation. -/
def aggregatePieces (base : Relation) (plan : Plan) (verb : Verb) (column : String) : List Piece :=
  literal (aggregateStart verb column ++ "\nFROM (\n") ++ groupedPieces base plan ++
    literal "\n) AS grouped" ++ literal (aggregateEnd verb column)

theorem unmarked_groupedStart (base : Relation) (plan : Plan) :
    Unmarked (groupedStart base plan) := by
  have hjoins : Unmarked (joinLines base plan) := by
    apply Unmarked.flatten
    intro line hline
    obtain ⟨relation, -, rfl⟩ := List.mem_map.mp hline
    simp +decide [joinLine]
  simp +decide [groupedStart, hjoins]

theorem unmarked_aggregateStart (verb : Verb) {column : String} (h : Unmarked column) :
    Unmarked (aggregateStart verb column) := by
  have hfunction : Unmarked verb.function := by cases verb <;> decide
  cases verb with
  | count => exact (Unmarked.append (by decide) h).append (by decide)
  | sum | average =>
    have hcall :=
      ((Unmarked.append (a := "SELECT ") (by decide) hfunction).append (b := "(")
        (by decide)).append h
    have hcount := (hcall.append (b := "), count(") (by decide)).append h
    exact ((hcount.append (by decide)).append h).append (by decide)
  | minimum | maximum => exact (Unmarked.append (by decide) h).append (by decide)

theorem unmarked_aggregateEnd (verb : Verb) {column : String} (h : Unmarked column) :
    Unmarked (aggregateEnd verb column) := by
  cases verb <;> simp +decide [aggregateEnd, h]

theorem lays_grouped (base : Relation) (plan : Plan) :
    Lays (groupedPieces base plan) (groupedTextOver base plan) (parameters plan) := by
  have hbase : Unmarked base.table := unmarked_table base
  have hpicture : Unmarked (pictureCondition base) := hbase.append (by decide)
  have hend : Unmarked (groupedEnd base) := by simp +decide [groupedEnd]
  have hstart : Unmarked (groupedStart base plan ++ "\nWHERE ") :=
    (unmarked_groupedStart base plan).append (by decide)
  have hconditions :=
    ((laysAll_conditions plan.predicates).concat hpicture).joined "\n  AND " (by decide)
  exact (hconditions.after hstart).before hend

theorem lays_aggregate (base : Relation) (plan : Plan) (verb : Verb) {column : String}
    (h : Unmarked column) :
    Lays (aggregatePieces base plan verb column) (aggregateTextOver base plan verb column)
      (parameters plan) := by
  have hstart : Unmarked (aggregateStart verb column ++ "\nFROM (\n") :=
    (unmarked_aggregateStart verb h).append (by decide)
  exact (((lays_grouped base plan).after hstart).before (by decide)).before
    (unmarked_aggregateEnd verb h)

/-- A statement has a question mark for each parameter. The parameters, taken in order for the
    question marks from left to right, make the pieces. -/
structure Statement.Binds (statement : Statement) (pieces : List Piece) : Prop where
  count : statement.text.toList.count '?' = statement.parameters.length
  bind : Sql.bind statement.text.toList statement.parameters = pieces
  parameters : statement.parameters = pieces.filterMap Piece.value?

theorem Lays.binds {pieces : List Piece} {text : String} {parameters : List Value}
    (h : Lays pieces text parameters) : Statement.Binds ⟨text, parameters⟩ pieces :=
  ⟨h.count_eq, h.bind_eq, h.bound⟩

/-- **Main theorem.** The grouped relation, and the statement of a request, are written alike for
    all plans of one shape. Their question marks are as many as their parameters, and each is bound
    to the text in whose place it stands. There is a statement of a request just when its column is
    a column name. -/
theorem statements_bind_texts (base : Relation) (plan : Plan) (request : Request) :
    (∀ other : Plan, plan.SameShape other →
      groupedTextOver base other = groupedTextOver base plan ∧
      (aggregateStatementOver base other request).map Statement.text =
        (aggregateStatementOver base plan request).map Statement.text) ∧
    (groupedStatementOver base plan).Binds (groupedPieces base plan) ∧
    (IsColumnName request.column → ∃ statement, aggregateStatementOver base plan request =
      .ok statement ∧
      statement.Binds (aggregatePieces base plan request.verb request.column)) ∧
    (¬ IsColumnName request.column →
      aggregateStatementOver base plan request = .error (.invalidColumn request.column)) := by
  refine ⟨?_, (lays_grouped base plan).binds, ?_, ?_⟩
  · intro other hshape
    exact ⟨groupedTextOver_congr hshape base, aggregateStatementOver_text_congr hshape base request⟩
  · intro hname
    have hidentifier : isIdentifier request.column = true := isIdentifier_iff.mpr hname
    refine ⟨_, if_pos hidentifier, ?_⟩
    exact (lays_aggregate base plan request.verb (unmarked_column hname)).binds
  · intro hname
    have hidentifier : isIdentifier request.column = false :=
      Bool.eq_false_iff.mpr (mt isIdentifier_iff.mp hname)
    exact aggregateStatementOver_of_not_isIdentifier hidentifier

/-- A plan with a disjunction in another, an empty list of values, and texts that look like
    statements. -/
def hostilePlan : Plan where
  joins := [.setMembership]
  predicates := [.oneOf .setCode ["LEA", "?, ?)"] false,
    .anyOf [.contains .typeLine "50%" true,
      .anyOf [.oneOf .cardName [] false, .tagged .creature true,
      .oneOf .cardName ["'); DROP TABLE cards;--"] false]]]

/-- A plan of the same shape. -/
def harmlessPlan : Plan where
  joins := [.setMembership]
  predicates := [.oneOf .setCode ["ICE", "LEB"] false,
    .anyOf [.contains .typeLine "elf" true,
      .anyOf [.oneOf .cardName [] false, .tagged .creature true,
      .oneOf .cardName ["Ember"] false]]]

theorem statements_bind_texts_hostile : hostilePlan.SameShape harmlessPlan ∧
    groupedTextOver .cards harmlessPlan = groupedTextOver .cards hostilePlan ∧
    (groupedTextOver .cards hostilePlan).toList.count '?' = 4 ∧
    (∃ statement, aggregateStatementOver .cards hostilePlan ⟨.maximum, "power"⟩ = .ok statement ∧
      statement.text.toList.count '?' = statement.parameters.length ∧ statement.parameters =
        [.text "LEA", .text "?, ?)", .text "%50\\%%", .text "'); DROP TABLE cards;--"]) ∧
    aggregateStatementOver .cards hostilePlan ⟨.count, "id) --"⟩ =
      .error (.invalidColumn "id) --") := by
  have hshape : hostilePlan.SameShape harmlessPlan := ⟨rfl, rfl⟩
  have hpower : IsColumnName "power" := isIdentifier_iff.mp (by decide)
  have hcomment : ¬ IsColumnName "id) --" := mt isIdentifier_iff.mpr (by decide)
  obtain ⟨hsame, hgrouped, hstatement, -⟩ :=
    statements_bind_texts .cards hostilePlan ⟨.maximum, "power"⟩
  obtain ⟨-, -, -, hrefused⟩ := statements_bind_texts .cards hostilePlan ⟨.count, "id) --"⟩
  obtain ⟨statement, hok, hbinds⟩ := hstatement hpower
  have hparameters : statement.parameters = parameters hostilePlan :=
    congrArg Statement.parameters
      (Except.ok.inj (hok.symm.trans (if_pos (isIdentifier_iff.mpr hpower))))
  refine ⟨hshape, (hsame harmlessPlan hshape).1, hgrouped.count, ⟨statement, hok, hbinds.count, ?_⟩,
    ?_⟩
  · rw [hparameters]
    decide
  · exact hrefused hcomment

end Sql

end CardCensus
