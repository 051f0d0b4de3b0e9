import CardCensus.Proofs.Lookup.Selection
import CardCensus.Proofs.Text.Split

/-!
# Looking a card up by its own name

A name goes through the words of a search, their quotes and the word index before it meets itself
again. Whatever characters it has, it comes through, as long as one of them is a character that
words are made of. The word index knows a name without such a character by no word, so it is never
found.

Results:
* `ofText_name`: what a lookup of a name searches for.
* `lookup_own_name`: a card is found under its own name exactly if words are made of some character
  of the name.
-/

namespace CardCensus.Lookup

open Store

/-- The name is read as a search for itself: no mark parts it, nothing is trimmed, and no character
    with number zero cuts it short. -/
structure IsSearch (name : String) : Prop where
  bar : CardSearch.setMark ∉ name.toList
  trimmed : Text.trim name.toList = name.toList
  nulFree : Text.NulFree name

/-- What a lookup of a name searches for. -/
theorem ofText_name {name : String} (h : IsSearch name) :
    CardSearch.ofText name = ⟨name, .any⟩ := by
  rw [CardSearch.ofText, Text.cutAtChar_eq_none h.bar]
  simp only [Option.getD_none, h.trimmed, String.ofList_toList]
  rfl

/-- A search without a character that words are made of has no candidates. -/
theorem not_candidate {search : CardSearch}
    (h : ∀ c ∈ search.name.toList, Text.isTokenChar c = false)
    (printing : Printing) : ¬ Candidate search printing := by
  intro hcandidate
  have hnone : (Text.words search.name.toList).flatMap Text.terms = [] := by
    rw [Text.terms_words, Text.terms_eq_nil_iff]
    exact h
  obtain ⟨word, hword, hne⟩ := hcandidate.searchable
  exact hne (List.flatMap_eq_nil_iff.mp hnone word hword)

/-- **Main theorem.** Take an export with distinct ids into any store, and look one of its cards
    with a picture up by its name. If words are made of some character of the name, a card of the
    name is found, in any case. If not, none is found. -/
theorem lookup_own_name (store : Store) {sets : Export}
    (hids : ((exported sets).map (·.card.id)).Nodup)
    {printing : Printing} (hp : printing ∈ exported sets)
    (hpictured : printing.card.multiverseId ≠ 0)
    (hname : IsSearch printing.card.name) :
    ((∃ c ∈ printing.card.name.toList, Text.isTokenChar c = true) →
      ∃ card, (store.take sets).1.lookup (.ofText printing.card.name) = .ok (some card) ∧
        Text.sameFolded card.name printing.card.name = true) ∧
    ((∀ c ∈ printing.card.name.toList, Text.isTokenChar c = false) →
      (store.take sets).1.lookup (.ofText printing.card.name) = .ok none) := by
  have ht : (store.take sets).1.tables = some (sets.operations.foldl Operation.effect {}) := by
    rw [take_eq]
  have hhold := hold_exported sets
  have hnames := names_foldl_operations sets
  rw [ofText_name hname]
  constructor
  · intro hsearchable
    obtain ⟨other, -, -, hother, -, hfound⟩ :=
      lookup_of_named ht hhold hnames hids hname.nulFree hsearchable hp
      hpictured (Text.sameFolded_iff.mpr rfl) (rfl : admits .any printing.setCode = true)
    exact ⟨_, hfound, hother⟩
  · intro hnone
    exact (lookup_eq_none_iff hhold hnames hids ht hname.nulFree).mpr fun other _ =>
      not_candidate hnone other

/-- An export with a card of the given name. -/
def namedExport (name : String) : Export :=
  [("LEA",
    { name := "Alpha", code := "LEA", cards := [{ id := "1", name, multiverseId := some 1 }] })]

/-- A name with quotes, marks and a letter with a diacritic. -/
def quotedName : String := "\"Ach! Hans, Run!\" (É-2)"

theorem lookup_own_name_quoted : ∃ card,
    (Store.take {} (namedExport quotedName)).1.lookup (.ofText quotedName) = .ok (some card) ∧
      Text.sameFolded card.name quotedName = true := by
  have hids : ((exported (namedExport quotedName)).map (·.card.id)).Nodup := by decide
  have hname : IsSearch quotedName := ⟨by decide, by decide, by decide⟩
  obtain ⟨hfound, -⟩ := lookup_own_name {} hids (List.Mem.head _) (by decide) hname
  exact hfound ⟨'A', by decide, by decide⟩

/-- A name of underscores has no words, and a lookup of it finds no card. -/
theorem lookup_misses_own_name :
    ((exported (namedExport "_____")).map (·.card.id)).Nodup ∧
      (∃ printing ∈ exported (namedExport "_____"), printing.card.multiverseId ≠ 0 ∧
        printing.card.name = "_____") ∧
      "_____" ≠ "" ∧ IsSearch "_____" ∧
      (Store.take {} (namedExport "_____")).1.lookup (.ofText "_____") = .ok none :=
  ⟨by decide,
    ⟨_, List.Mem.head _, by
      decide, rfl⟩, by decide, ⟨by decide, by decide, by decide⟩, by decide +kernel⟩

end CardCensus.Lookup
