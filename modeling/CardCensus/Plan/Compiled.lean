import CardCensus.Negation
import CardCensus.Plan
import CardCensus.Query
import CardCensus.Text.Upper

/-!
# The plan of a query

Each field adds tests to the plan: its plain terms together as alternatives, each negated term as a
test of its own. Terms that a field does not understand add nothing.

* `name` compares the card's name, `set` the code of its set in upper case.
* `color` and `colorID` compare masks, `type`, `supertype` and `rarity` ask for tags.
* `subtype` looks for a part of the type line; an empty term is passed over.
-/

namespace CardCensus

namespace Plan

/-- The plan with a column restricted to the plain terms and barred from the negated ones
    (`compile_one_of`). -/
def withNames (plan : Plan) (column : Column) (positives negatives : List String) : Plan :=
  let plan := if positives.isEmpty then plan else plan.filter (.oneOf column positives false)
  if negatives.isEmpty then plan else plan.filter (.oneOf column negatives true)

/-- The plan with one of the included tests and each of the excluded ones. -/
def withTests (plan : Plan) (included excluded : List Predicate) : Plan :=
  (plan.filterAll (Predicate.disjunction included).toList).filterAll excluded

/-- The tests for the masks among the terms. -/
def colorTests (relation : Relation) (negated : Bool) (terms : List String) : List Predicate :=
  (terms.filterMap ColorMask.ofTerm?).map fun mask => .colorExact relation mask negated

/-- The plan with the masks among the terms; the relation is joined only if there is one
    (`compile_colors`). -/
def withColors (plan : Plan) (relation : Relation) (positives negatives : List String) : Plan :=
  let included := colorTests relation false positives
  let excluded := colorTests relation true negatives
  if included.isEmpty && excluded.isEmpty then plan
  else (plan.join relation).withTests included excluded

/-- The tests for the tags among the terms. -/
def tagTests (axis : Axis) (negated : Bool) (terms : List String) : List Predicate :=
  (terms.filterMap (Tag.ofTerm? axis)).map fun tag => .tagged tag negated

/-- The plan with the tags among the terms (`compile_category`). -/
def withTags (plan : Plan) (axis : Axis) (positives negatives : List String) : Plan :=
  plan.withTests (tagTests axis false positives) (tagTests axis true negatives)

/-- The tests for the parts of a type line among the terms. -/
def subtypeTests (negated : Bool) (terms : List String) : List Predicate :=
  (terms.filter (· ≠ "")).map fun needle => .contains .typeLine needle negated

/-- The plan with the parts of a type line among the terms (`compile_subtypes`). -/
def withSubtypes (plan : Plan) (positives negatives : List String) : Plan :=
  plan.withTests (subtypeTests false positives) (subtypeTests true negatives)

/-- The plan with the terms of one field (a turn of `compile`). -/
def withField (plan : Plan) (field : Field) (terms : List String) : Plan :=
  let positives := Negation.positives terms
  let negatives := Negation.negatives terms
  match field with
  | .name => plan.withNames .cardName positives negatives
  | .set => (plan.join .setMembership).withNames .setCode (positives.map Text.uppercased)
      (negatives.map Text.uppercased)
  | .color => plan.withColors .color positives negatives
  | .colorIdentity => plan.withColors .colorIdentity positives negatives
  | .type => plan.withTags .type positives negatives
  | .supertype => plan.withTags .supertype positives negatives
  | .rarity => plan.withTags .rarity positives negatives
  | .subtype => plan.withSubtypes positives negatives
  | .unknown _ => plan

/-- The plan of a query (`compile`). -/
def ofQuery (query : Query) : Plan :=
  query.fields.foldl (fun plan (field, terms) => plan.withField field terms) {}

end Plan

end CardCensus
