import CardCensus.Category
import CardCensus.Color
import CardCensus.Negation
import CardCensus.Query.Clause

/-!
# Diagnostics

What a match text says without effect: clauses without a colon, unknown fields, and terms that their
field does not understand.
-/

namespace CardCensus

/-- A part of a match text that has no effect. -/
inductive Diagnostic where
  | skippedClause (text : String)
  | unknownField (word : String)
  | unknownTerm (field : Field) (term : String)
  deriving Repr, DecidableEq

namespace Diagnostic

/-- The wording of a diagnostic. -/
def message : Diagnostic → String
  | skippedClause text => "Warning: clause '" ++ text ++ "' has no ':' and was ignored"
  | unknownField word => "Warning: unknown field '" ++ word ++ "' was ignored"
  | unknownTerm field term =>
    "Warning: unknown " ++ field.display ++ " '" ++ term ++ "' was ignored"

/-- The field understands the term. -/
def understands : Field → String → Bool
  | .type, term => (Tag.ofTerm? .type term).isSome
  | .supertype, term => (Tag.ofTerm? .supertype term).isSome
  | .rarity, term => (Tag.ofTerm? .rarity term).isSome
  | .color, term | .colorIdentity, term => (ColorMask.ofTerm? term).isSome
  | .name, _ | .set, _ | .subtype, _ | .unknown _, _ => true

/-- The diagnostics of one field: plain terms before negated ones. -/
def ofField (field : Field) (terms : List String) : List Diagnostic :=
  match field with
  | .unknown word => [unknownField word]
  | _ => ((Negation.positives terms ++ Negation.negatives terms).filter
      fun term => !understands field term).map (unknownTerm field)

/-- The diagnostics of a match text (`diagnose`). -/
def ofMatch (parsed : Match) : List Diagnostic :=
  parsed.skipped.map skippedClause ++
    parsed.query.fields.flatMap fun (field, terms) => ofField field terms

end Diagnostic

end CardCensus
