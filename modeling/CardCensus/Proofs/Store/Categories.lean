import CardCensus.Proofs.Store.Contents
import CardCensus.Proofs.Store.Filtering

/-!
# Terms and stored values

A term of a category is read in any case and by any of its words, while a tag's view lists the cards
that have one text, letter by letter. So what a term finds is whether a card has the text of the tag
that the term stands for, and a card with the same value in other words is not found by its own
value.

Results:
* `negated?_of_ofTerm?`: a term that stands for a tag is not negated.
* `ofTerm?_storedValue`: the text of a tag stands for the tag.
* `category_retains_iff`: which printings a term of a category retains, and which its negation does.
-/

namespace CardCensus

namespace Tag

theorem normalTerm_cons {c : Char} (h : Text.isBlank c = false) (rest : List Char) :
    ∃ others, normalTerm (c :: rest) = lowerTermChar c :: others := by
  obtain ⟨word, others, hwords⟩ := Text.exists_words_cons h rest
  rw [normalTerm, hwords]
  cases others with
  | nil => exact ⟨_, rfl⟩
  | cons other others => exact ⟨_, rfl⟩

/-- No word for a tag starts with the mark of a negated term. -/
theorem head?_synonyms : ∀ entry ∈ synonyms, entry.1.toList.head? ≠ some Negation.mark := by
  decide

/-- A term that stands for a tag is not negated. -/
theorem negated?_of_ofTerm? {axis : Axis} {term : String} {tag : Tag}
    (h : ofTerm? axis term = some tag) :
    Negation.negated? term = none := by
  rw [ofTerm?, Option.map_eq_some_iff] at h
  obtain ⟨⟨word, found⟩, hfound, -⟩ := h
  have hword : word.toList = normalTerm term.toList := by simpa using List.find?_some hfound
  have hmem : (word, found) ∈ synonyms := (List.mem_filter.mp (List.mem_of_find?_eq_some hfound)).1
  rw [Negation.negated?]
  cases hterm : term.toList with
  | nil => rfl
  | cons c rest =>
    by_cases hmark : c = Negation.mark
    · exfalso
      subst hmark
      obtain ⟨others, hnormal⟩ := normalTerm_cons (c := Negation.mark) (by decide) rest
      apply head?_synonyms _ hmem
      rw [hword, hterm, hnormal]
      rfl
    · exact if_neg hmark

/-- The text of a tag stands for the tag. -/
theorem ofTerm?_storedValue (tag : Tag) : ofTerm? tag.axis tag.storedValue = some tag := by
  cases tag <;> decide

end Tag

namespace Store

variable {printing : Printing} {axis : Axis} {term : String} {tag : Tag}

namespace Printing

/-- What a printing has to be for the terms of an axis. -/
theorem satisfies_axis_iff (texts : Text.Comparison) (axis : Axis) (terms : List String) :
    printing.Satisfies texts ⟨[(axis.field, terms)]⟩ ↔ printing.card.multiverseId ≠ 0 ∧
      (∀ tag ∈ (Negation.negatives terms).filterMap (Tag.ofTerm? axis),
        tag.storedValue ∉ printing.card.valuesOn axis) ∧
      ((Negation.positives terms).filterMap (Tag.ofTerm? axis) ≠ [] →
        ∃ tag ∈ (Negation.positives terms).filterMap (Tag.ofTerm? axis),
          tag.storedValue ∈ printing.card.valuesOn axis) := by
  have hunderstands : ∀ term, axis.field.Understands term ↔ (Tag.ofTerm? axis term).isSome := by
    cases axis <;> exact fun _ => Iff.rfl
  have hmatches : ∀ term tag, Tag.ofTerm? axis term = some tag →
      (printing.Matches texts axis.field term ↔ tag.storedValue ∈ printing.card.valuesOn axis) := by
    intro term tag hterm
    have htag : printing.Matches texts axis.field term ↔ printing.HasTag axis term := by
      cases axis <;> exact Iff.rfl
    rw [htag, HasTag, hterm]
    simp
  rw [← satisfiesField_iff _ _ hunderstands hmatches]
  constructor
  · exact fun h => ⟨h.pictured, h.fields _ (List.Mem.head _)⟩
  · rintro ⟨hpictured, hfield⟩
    exact ⟨hpictured, fun entry hentry => List.mem_singleton.mp hentry ▸ hfield⟩

theorem satisfies_term_iff (hterm : Tag.ofTerm? axis term = some tag) (texts : Text.Comparison) :
    printing.Satisfies texts ⟨[(axis.field, [term])]⟩ ↔
      printing.card.multiverseId ≠ 0 ∧ tag.storedValue ∈ printing.card.valuesOn axis := by
  rw [satisfies_axis_iff]
  simp [Negation.negatives, Negation.positives, Tag.negated?_of_ofTerm? hterm, hterm]

theorem satisfies_negation_iff (hterm : Tag.ofTerm? axis term = some tag)
    (texts : Text.Comparison) :
    printing.Satisfies texts ⟨[(axis.field, [Negation.negation term])]⟩ ↔
      printing.card.multiverseId ≠ 0 ∧ tag.storedValue ∉ printing.card.valuesOn axis := by
  rw [satisfies_axis_iff]
  simp [Negation.negatives, Negation.positives, hterm]

end Printing

/-! ## After an export -/

/-- **Main theorem.** Take an export whose printings have distinct ids into any store. Of the
    printings that are no placeholders a term that stands for a tag retains those that list the text
    of the tag, letter by letter, and the negation of the term retains the others. The text of a tag
    is one of its terms, so a value in that spelling finds the printings that list it. -/
theorem category_retains_iff (store : Store) {sets : Export}
    (hids : ((exported sets).map (·.card.id)).Nodup) :
    ∃ tables, store.take sets = ({ store with tables := some tables }, .ok sets.count) ∧
      (∀ number printing, (number, printing) ∈ numbered (exported sets) →
        printing.card.multiverseId ≠ 0 →
        ∀ axis term tag, Tag.ofTerm? axis term = some tag →
          (tables.Retains ⟨[(axis.field, [term])]⟩ number printing ↔
            tag.storedValue ∈ printing.card.valuesOn axis) ∧
          (tables.Retains ⟨[(axis.field, [Negation.negation term])]⟩ number printing ↔
            tag.storedValue ∉ printing.card.valuesOn axis)) ∧
      ∀ tag : Tag, Tag.ofTerm? tag.axis tag.storedValue = some tag := by
  refine ⟨_, take_eq store sets, ?_, Tag.ofTerm?_storedValue⟩
  intro number printing hentry hpictured axis term tag hterm
  rw [retains_iff_satisfies (hold_exported sets) hids hentry,
    retains_iff_satisfies (hold_exported sets) hids hentry,
    Printing.satisfies_term_iff hterm, Printing.satisfies_negation_iff hterm]
  exact ⟨and_iff_right hpictured, and_iff_right hpictured⟩

/-- A card whose type is spelled as the tag is, and whose rarity is not. -/
def unevenCard : Export.ExportedCard where
  id := "1"
  name := "Elf"
  types := ["Creature"]
  rarities := ["Mythic"]
  multiverseId := some 1

/-- A set with the card. -/
def unevenExport : Export :=
  [("LEA", { name := "Alpha", code := "LEA", cards := [unevenCard] })]

/-- The printing of the card. -/
def unevenPrinting : Printing :=
  ⟨"LEA", unevenCard.toCard ""⟩

theorem category_retains_iff_uneven : ∃ tables,
    Store.take {} unevenExport = ({ tables := some tables }, .ok unevenExport.count) ∧
      tables.Retains ⟨[(.type, ["CREATURES"])]⟩ 1 unevenPrinting ∧
      ¬ tables.Retains ⟨[(.rarity, ["mr"])]⟩ 1 unevenPrinting := by
  have hids : ((exported unevenExport).map (·.card.id)).Nodup := by decide
  obtain ⟨tables, htake, hretains, -⟩ := category_retains_iff {} hids
  have hprinting := hretains 1 unevenPrinting (List.Mem.head _) (by decide)
  exact ⟨tables, htake, (hprinting .type "CREATURES" .creature (by decide)).1.mpr (by decide),
    fun hmythic => absurd ((hprinting .rarity "mr" .mythic (by decide)).1.mp hmythic) (by decide)⟩

/-- A rarity that resolves need not be found by its own value, and is found by the negation
    of it. -/
theorem own_value_misses : ∃ tables, (Store.take {} unevenExport).1.tables = some tables ∧
    "Mythic" ∈ unevenPrinting.card.valuesOn .rarity ∧ Tag.ofTerm? .rarity "Mythic" = some .mythic ∧
    (tables.retained (Plan.ofQuery ⟨[(.rarity, ["Mythic"])]⟩)).map (·.number) = [] ∧
    (tables.retained (Plan.ofQuery ⟨[(.rarity, ["!Mythic"])]⟩)).map (·.number) = [1] := by
  have htake := take_eq {} unevenExport
  generalize htables : unevenExport.operations.foldl Operation.effect {} = tables at htake
  refine ⟨tables, congrArg (·.1.tables) htake, by decide, by decide, ?_, ?_⟩ <;>
    rw [← htables] <;> decide

end Store

end CardCensus
