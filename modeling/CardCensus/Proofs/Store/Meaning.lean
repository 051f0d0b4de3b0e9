import CardCensus.Proofs.Store.Printings
import CardCensus.Proofs.Text.Upper
import CardCensus.Query
import CardCensus.Negation

/-!
# What a query means

A query is about printings, and its meaning needs no tables. A field understands some terms and
passes over the others. Of a field with plain terms that it understands one has to match, and none
of the negated ones may.

Results:
* `matches_stored_iff`: on ordinary texts, a term matches alike, however texts are compared.
* `satisfies_stored_iff`: so does a query of such terms.
-/

namespace CardCensus

/-- The field knows what to do with the term. -/
def Field.Understands (field : Field) (term : String) : Prop :=
  match field with
  | .name | .set => True
  | .color | .colorIdentity => (ColorMask.ofTerm? term).isSome
  | .type => (Tag.ofTerm? .type term).isSome
  | .supertype => (Tag.ofTerm? .supertype term).isSome
  | .rarity => (Tag.ofTerm? .rarity term).isSome
  | .subtype => term ≠ ""
  | .unknown _ => False

namespace Store.Printing

/-- The printing has the value of the tag that the term stands for. -/
def HasTag (printing : Printing) (axis : Axis) (term : String) : Prop :=
  ∃ tag, Tag.ofTerm? axis term = some tag ∧ tag.storedValue ∈ printing.card.valuesOn axis

/-- The term of the field matches the printing, texts being compared in the given way. -/
def Matches (texts : Text.Comparison) (printing : Printing) (field : Field) (term : String) :
    Prop :=
  match field with
  | .name => texts.same printing.card.name term
  | .set => texts.same printing.setCode (Text.uppercased term)
  | .color => ColorMask.ofTerm? term = some printing.card.colors
  | .colorIdentity => ColorMask.ofTerm? term = some printing.card.colorIdentity
  | .type => printing.HasTag .type term
  | .supertype => printing.HasTag .supertype term
  | .rarity => printing.HasTag .rarity term
  | .subtype => texts.holds printing.card.typeLine term
  | .unknown _ => False

/-- The printing is what the terms of the field ask for. -/
structure SatisfiesField (texts : Text.Comparison) (printing : Printing) (field : Field)
    (terms : List String) : Prop where
  /-- No negated term that is understood matches. -/
  excluded : ∀ term ∈ Negation.negatives terms, field.Understands term →
    ¬ printing.Matches texts field term
  /-- If a plain term is understood, one that is understood matches. -/
  included : (∃ term ∈ Negation.positives terms, field.Understands term) →
    ∃ term ∈ Negation.positives terms, field.Understands term ∧ printing.Matches texts field term

/-- The printing is what the query asks for. It is no placeholder. -/
structure Satisfies (texts : Text.Comparison) (printing : Printing) (query : Query) : Prop where
  pictured : printing.card.multiverseId ≠ 0
  fields : ∀ entry ∈ query.fields, printing.SatisfiesField texts entry.1 entry.2

/-- Where a field reads its terms as values, and a term matches when its value holds, the printing
    is what the terms ask for when one of the plain values holds, if there is any, and no negated
    one does. -/
theorem satisfiesField_iff {β : Type} {texts : Text.Comparison} {printing : Printing}
    {field : Field}
    (parse : String → Option β) (holds : β → Prop)
    (hunderstands : ∀ term, field.Understands term ↔ (parse term).isSome)
    (hmatches : ∀ term value, parse term = some value →
      (printing.Matches texts field term ↔ holds value))
    (terms : List String) :
    printing.SatisfiesField texts field terms ↔
      (∀ value ∈ (Negation.negatives terms).filterMap parse, ¬ holds value) ∧
        ((Negation.positives terms).filterMap parse ≠ [] →
          ∃ value ∈ (Negation.positives terms).filterMap parse, holds value) := by
  have hvalue : ∀ term, field.Understands term ↔ ∃ value, parse term = some value := fun term =>
    (hunderstands term).trans Option.isSome_iff_exists
  constructor
  · intro h
    constructor
    · intro value hmem hholds
      obtain ⟨term, hterm, hparse⟩ := List.mem_filterMap.mp hmem
      exact h.excluded term hterm ((hvalue term).mpr ⟨value, hparse⟩)
        ((hmatches term value hparse).mpr hholds)
    · intro hne
      obtain ⟨value, hmem⟩ := List.exists_mem_of_ne_nil _ hne
      obtain ⟨term, hterm, hparse⟩ := List.mem_filterMap.mp hmem
      obtain ⟨found, hfound, hunderstood, hmatch⟩ :=
        h.included ⟨term, hterm, (hvalue term).mpr ⟨value, hparse⟩⟩
      obtain ⟨image, himage⟩ := (hvalue found).mp hunderstood
      exact ⟨image, List.mem_filterMap.mpr ⟨found, hfound, himage⟩,
        (hmatches found image himage).mp hmatch⟩
  · rintro ⟨hexcluded, hincluded⟩
    constructor
    · intro term hterm hunderstood hmatch
      obtain ⟨value, hparse⟩ := (hvalue term).mp hunderstood
      exact hexcluded value (List.mem_filterMap.mpr ⟨term, hterm, hparse⟩)
        ((hmatches term value hparse).mp hmatch)
    · rintro ⟨term, hterm, hunderstood⟩
      obtain ⟨value, hparse⟩ := (hvalue term).mp hunderstood
      have hmem := List.mem_filterMap.mpr ⟨term, hterm, hparse⟩
      obtain ⟨image, himage, hholds⟩ := hincluded (List.ne_nil_of_mem hmem)
      obtain ⟨found, hfound, hparsed⟩ := List.mem_filterMap.mp himage
      exact ⟨found, hfound, (hvalue found).mpr ⟨image, hparsed⟩,
        (hmatches found image hparsed).mpr hholds⟩

/-! ## Texts that are compared as is meant -/

/-- The texts of the printing that a query looks at have no character with number zero, and the one
    in which parts are looked for is readable. -/
structure IsOrdinary (printing : Printing) : Prop where
  name : Text.NulFree printing.card.name
  setCode : Text.NulFree printing.setCode
  typeLine : Text.NulFree printing.card.typeLine
  readable : Text.IsReadable printing.card.typeLine

end Store.Printing

/-- The term of the field has no character with number zero, and is readable if it is looked for in
    a text. -/
structure Field.HasOrdinary (field : Field) (term : String) : Prop where
  nulFree : Text.NulFree term
  readable : field = .subtype → Text.IsReadable term

instance (field : Field) (term : String) : Decidable (field.HasOrdinary term) :=
  decidable_of_iff (Text.NulFree term ∧ (field = .subtype → Text.IsReadable term))
    ⟨fun h => ⟨h.1, h.2⟩, fun h => ⟨h.nulFree, h.readable⟩⟩

namespace Store.Printing

variable {printing : Printing}

theorem matches_stored_iff (hprinting : printing.IsOrdinary) {field : Field} {term : String}
    (hterm : field.HasOrdinary term) :
    printing.Matches .stored field term ↔ printing.Matches .plain field term := by
  cases field with
  | name => exact Text.stored_same_iff hprinting.name hterm.nulFree
  | set => exact Text.stored_same_iff hprinting.setCode (Text.nulFree_uppercased hterm.nulFree)
  | subtype =>
    exact Text.stored_holds_iff hprinting.typeLine hterm.nulFree hprinting.readable
      (hterm.readable rfl)
  | color | colorIdentity | type | supertype | rarity | unknown _ => exact Iff.rfl

/-- What the terms ask for depends on which of them match, and on nothing else. -/
theorem SatisfiesField.congr {texts texts' : Text.Comparison} {field : Field} {terms : List String}
    (h : printing.SatisfiesField texts field terms)
    (hmatches : ∀ term, term ∈ Negation.positives terms ∨ term ∈ Negation.negatives terms →
      (printing.Matches texts field term ↔ printing.Matches texts' field term)) :
    printing.SatisfiesField texts' field terms where
  excluded term hterm hunderstood hmatch :=
    h.excluded term hterm hunderstood ((hmatches term (Or.inr hterm)).mpr hmatch)
  included hsome := by
    obtain ⟨term, hterm, hunderstood, hmatch⟩ := h.included hsome
    exact ⟨term, hterm, hunderstood, (hmatches term (Or.inl hterm)).mp hmatch⟩

/-- A negated term has some of the characters of the term as it is written. -/
theorem subset_of_negated? {whole term : String} (h : Negation.negated? whole = some term) :
    term.toList ⊆ whole.toList := by
  unfold Negation.negated? at h
  split at h
  · cases h
  · rename_i mark rest hchars
    split at h
    · cases h
      rw [String.toList_ofList, hchars]
      exact List.subset_cons_self _ _
    · cases h

theorem hasOrdinary_of_mem_split {field : Field} {terms : List String}
    (h : ∀ term ∈ terms, field.HasOrdinary term)
    {term : String} (hterm : term ∈ Negation.positives terms ∨ term ∈ Negation.negatives terms) :
    field.HasOrdinary term := by
  rcases hterm with hterm | hterm
  · exact h term (List.mem_filter.mp hterm).1
  · obtain ⟨whole, hwhole, hnegated⟩ := List.mem_filterMap.mp hterm
    have hpart := subset_of_negated? hnegated
    have hordinary := h whole hwhole
    exact ⟨fun hnul => hordinary.nulFree (hpart hnul), fun hfield =>
      ⟨mt (hpart ·) (hordinary.readable hfield).1, mt (hpart ·) (hordinary.readable hfield).2⟩⟩

/-- On ordinary texts, the tables give a query its meaning. -/
theorem satisfies_stored_iff (hprinting : printing.IsOrdinary) {query : Query}
    (hquery : ∀ entry ∈ query.fields, ∀ term ∈ entry.2, entry.1.HasOrdinary term) :
    printing.Satisfies .stored query ↔ printing.Satisfies .plain query := by
  have hmatches : ∀ entry ∈ query.fields, ∀ term,
      term ∈ Negation.positives entry.2 ∨ term ∈ Negation.negatives entry.2 →
      (printing.Matches .stored entry.1 term ↔ printing.Matches .plain entry.1 term) :=
    fun entry hentry term hterm =>
      matches_stored_iff hprinting (hasOrdinary_of_mem_split (hquery entry hentry) hterm)
  constructor
  · intro h
    exact ⟨h.pictured, fun entry hentry => (h.fields entry hentry).congr (hmatches entry hentry)⟩
  · intro h
    refine ⟨h.pictured, fun entry hentry => (h.fields entry hentry).congr ?_⟩
    exact fun term hterm => (hmatches entry hentry term hterm).symm

end Store.Printing

end CardCensus
