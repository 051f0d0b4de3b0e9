import CardCensus.Text.Fold

/-!
# Queries and requests

A `Query` gives for each field the terms that cards are filtered by, fields in the order of their
first mention. A `Request` asks for one aggregate of one column.

Results:
* `Query.terms?_add_self` and `Query.terms?_add_of_ne`: adding terms to a field appends to that
  field and touches no other.
* `Query.fields_add_nodup`: a field is listed once.
-/

namespace CardCensus

/-- What a card is filtered by. -/
inductive Field where
  | name
  | color
  | colorIdentity
  | supertype
  | type
  | subtype
  | set
  | rarity
  /-- A field that the language does not know; it is kept and has no effect. -/
  | unknown (word : String)
  deriving Repr, DecidableEq, Inhabited

namespace Field

/-- The words for the known fields. -/
def words : List (String × Field) :=
  [("name", name), ("names", name), ("color", color), ("colors", color),
    ("colorid", colorIdentity), ("colorids", colorIdentity),
    ("supertype", supertype), ("supertypes", supertype), ("type", type), ("types", type),
    ("subtype", subtype), ("subtypes", subtype),
    ("set", set), ("sets", set), ("set_code", set), ("set_codes", set),
    ("rarity", rarity), ("rarities", rarity)]

/-- The field that a word names, in any case (`Field.parse`). -/
def ofWord (word : String) : Field :=
  match words.find? fun (known, _) => known.toList == Text.fold word.toList with
  | some (_, field) => field
  | none => unknown word

/-- The field as it is written in a query. -/
def display : Field → String
  | name => "name"
  | color => "color"
  | colorIdentity => "colorID"
  | supertype => "supertype"
  | type => "type"
  | subtype => "subtype"
  | set => "set"
  | rarity => "rarity"
  | unknown word => word

end Field

/-- An aggregate. -/
inductive Verb where
  | count
  | sum
  | average
  | minimum
  | maximum
  deriving Repr, DecidableEq, Inhabited

namespace Verb

/-- The words for the aggregates. -/
def words : List (String × Verb) :=
  [("count", count), ("sum", sum), ("avg", average), ("average", average), ("min", minimum),
    ("max", maximum)]

/-- The aggregate that a word names, in any case (`Verb.parse`). -/
def ofWord? (word : String) : Option Verb :=
  (words.find? fun (known, _) => known.toList == Text.fold word.toList).map (·.2)

/-- The aggregate at the head of an answer. -/
def label : Verb → String
  | count => "Count"
  | sum => "Sum"
  | average => "Average"
  | minimum => "Minimum"
  | maximum => "Maximum"

/-- The aggregate as a function of the statement language (`sql_function`). -/
def function : Verb → String
  | count => "count"
  | sum => "sum"
  | average => "avg"
  | minimum => "min"
  | maximum => "max"

end Verb

/-- One aggregate of one column. -/
structure Request where
  verb : Verb
  column : String
  deriving Repr, DecidableEq, Inhabited

/-- What is asked when nothing is: the number of cards. -/
def Request.standard : Request := ⟨.count, "id"⟩

/-- The terms of each field, fields in the order of their first mention. -/
structure Query where
  fields : List (Field × List String) := []
  deriving Repr, DecidableEq, Inhabited

namespace Query

/-- The list with terms appended to a field, which comes last when it is new. -/
def addTo (field : Field) (terms : List String) : List (Field × List String) →
    List (Field × List String)
  | [] => [(field, terms)]
  | (f, ts) :: rest =>
    if f = field then (f, ts ++ terms) :: rest else (f, ts) :: addTo field terms rest

/-- The query with terms appended to a field (`add_terms`). -/
def add (query : Query) (field : Field) (terms : List String) : Query :=
  ⟨addTo field terms query.fields⟩

/-- The terms of a field that is mentioned. -/
def terms? (query : Query) (field : Field) : Option (List String) :=
  (query.fields.find? (·.1 == field)).map (·.2)

/-- No field is mentioned. -/
def isEmpty (query : Query) : Bool :=
  query.fields.isEmpty

/-- The fields in order. -/
def fieldNames (query : Query) : List Field :=
  query.fields.map (·.1)

theorem terms?_cons (entry : Field × List String) (rest : List (Field × List String))
    (field : Field) :
    terms? ⟨entry :: rest⟩ field = if entry.1 = field then some entry.2
      else terms? ⟨rest⟩ field := by
  by_cases h : entry.1 = field <;> simp [terms?, h]

theorem terms?_add_self (query : Query) (field : Field) (terms : List String) :
    (query.add field terms).terms? field = some ((query.terms? field).getD [] ++ terms) := by
  obtain ⟨fields⟩ := query
  simp only [add, terms?]
  induction fields with
  | nil => simp [addTo]
  | cons head rest ih =>
    obtain ⟨f, ts⟩ := head
    by_cases h : f = field
    · simp [addTo, h]
    · have hb : (f == field) = false := by simpa using h
      simpa [addTo, h, List.find?_cons, hb] using ih

theorem terms?_add_of_ne (query : Query) {field other : Field} (h : other ≠ field)
    (terms : List String) : (query.add field terms).terms? other = query.terms? other := by
  obtain ⟨fields⟩ := query
  simp only [add, terms?]
  induction fields with
  | nil => simp [addTo, Ne.symm h]
  | cons head rest ih =>
    obtain ⟨f, ts⟩ := head
    by_cases hf : f = field
    · subst hf
      simp [addTo, Ne.symm h]
    · simp only [addTo, hf, ↓reduceIte, List.find?_cons]
      split
      · rfl
      · exact ih

theorem mem_map_addTo {field : Field} {terms : List String} {fields : List (Field × List String)}
    {f : Field} : f ∈ (addTo field terms fields).map (·.1) ↔ f = field ∨ f ∈ fields.map (·.1) := by
  induction fields with
  | nil => simp [addTo]
  | cons head rest ih =>
    obtain ⟨g, ts⟩ := head
    by_cases h : g = field
    · simp [addTo, h]
    · simp only [addTo, h, ↓reduceIte, List.map_cons, List.mem_cons, ih]
      constructor
      · rintro (h | h | h) <;> simp [h]
      · rintro (h | h | h) <;> simp [h]

theorem fields_add_nodup {query : Query} (h : query.fieldNames.Nodup) (field : Field)
    (terms : List String) : (query.add field terms).fieldNames.Nodup := by
  obtain ⟨fields⟩ := query
  simp only [fieldNames, add] at h ⊢
  induction fields with
  | nil => simp [addTo]
  | cons head rest ih =>
    obtain ⟨f, ts⟩ := head
    rw [List.map_cons, List.nodup_cons] at h
    by_cases hf : f = field
    · simp only [addTo, hf, ↓reduceIte, List.map_cons, List.nodup_cons]
      exact ⟨by simpa [hf] using h.1, h.2⟩
    · simp only [addTo, hf, ↓reduceIte, List.map_cons, List.nodup_cons]
      refine ⟨?_, ih h.2⟩
      rw [mem_map_addTo]
      rintro (he | he)
      · exact hf he
      · exact h.1 he

end Query

end CardCensus
