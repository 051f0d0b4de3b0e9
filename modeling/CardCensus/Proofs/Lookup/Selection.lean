import CardCensus.Proofs.Lookup.Candidates
import CardCensus.Proofs.Store.Filtering
import CardCensus.Proofs.Store.Grouping

/-!
# Which card a lookup shows

A lookup shows one printing: of those that pass its tests the first that has the requested name in
any case, or the first of all where none has it. It is told here in terms of the printings that
came, for every store whose word index has been drawn up since the last of them.

Results:
* `indexed_tell`: when the word index has the names of all cards.
* `candidate_iff`: what the tests of a lookup ask of a printing.
* `lookup_eq`: a lookup shows the printing that is chosen.
* `lookup_selects`: which printing that is, and what is shown of it.
-/

namespace CardCensus

namespace Store

/-! ## The word index -/

/-- The account of the word index: whether it has been drawn up since the last printing came. -/
def indexed : Account Bool where
  start := true
  next current
    | .clear | .rebuildIndex => true
    | .addPrinting _ _ => false
    | .putSet _ | .refuse _ => current

/-- **Step.** A word index that has been drawn up since has the names of all cards. -/
theorem indexed_tell : indexed.Tells fun current tables =>
    current = true → tables.names = .ofEntries (tables.cards.entries.map Tables.nameRow) where
  empty _ := rfl
  effect h operation hcurrent := by
    cases operation with
    | clear =>
      rw [Operation.effect, Tables.clear_eq]
      rfl
    | addPrinting => cases hcurrent
    | rebuildIndex => rfl
    | putSet | refuse => exact h hcurrent

/-! ## The first printing of a kind -/

/-- Of the printings with a property, the one with the least row number. -/
structure IsFirst (held : List Printing) (P : Printing → Prop) (number : Nat)
    (printing : Printing) : Prop where
  mem : (number, printing) ∈ numbered held
  holds : P printing
  least : ∀ other ∈ numbered held, P other.2 → number ≤ other.1

variable {held : List Printing}

theorem ascending_numbered (held : List Printing) :
    (numbered held).Pairwise fun a b => a.1 < b.1 := by
  have h := (Table.ofEntries held).ascending
  rwa [Table.rows_ofEntries] at h

theorem numbered_map_snd (held : List Printing) : (numbered held).map (·.2) = held := by
  rw [numbered, List.map_map]
  exact List.zipIdx_map_fst 1 held

/-- The first printing that passes a test is found. -/
theorem isFirst_of_find? {test : Printing → Bool} {printing : Printing}
    (h : held.find? test = some printing) :
    ∃ number, IsFirst held (test · = true) number printing := by
  rw [← numbered_map_snd held, List.find?_map, Option.map_eq_some_iff] at h
  obtain ⟨⟨number, found⟩, hfind, rfl⟩ := h
  obtain ⟨hholds, before, later, hsplit, hbefore⟩ := List.find?_eq_some_iff_append.mp hfind
  have hascending := ascending_numbered held
  rw [hsplit, List.pairwise_append, List.pairwise_cons] at hascending
  refine ⟨number, List.mem_of_find?_eq_some hfind, hholds, fun other hother hpasses => ?_⟩
  rw [hsplit, List.mem_append, List.mem_cons] at hother
  rcases hother with hother | rfl | hother
  · have hfails := hbefore other hother
    rw [Function.comp_apply, hpasses] at hfails
    cases hfails
  · exact le_rfl
  · exact (hascending.2.1.1 other hother).le

end Store

namespace Lookup

open Store

variable {held : List Printing} {tables : Tables} {store : Store}

/-! ## Candidates -/

/-- The printing passes the tests of a search: it has a picture and lies in the set that is asked
    for, and each word of the search that the word index knows is a run of searchable words of its
    name, as far as the index keeps them. Some word has to be known. -/
structure Candidate (search : CardSearch) (printing : Printing) : Prop where
  pictured : printing.card.multiverseId ≠ 0
  inScope : ∀ code, search.scope = .code code → printing.setCode = code
  searchable : ∃ word ∈ Text.words search.name.toList, Text.terms word ≠ []
  named : ∀ word ∈ Text.words search.name.toList, Text.terms word ≠ [] →
    Text.terms word <:+: Text.terms printing.card.name.toList

theorem nameMatches_phrases_iff {words : List (List Char)} {name : String} :
    nameMatches (phrases words) name = true ↔ (∃ word ∈ words, Text.terms word ≠ []) ∧
      ∀ word ∈ words, Text.terms word ≠ [] → Text.terms word <:+: Text.terms name.toList := by
  have hmem : ∀ phrase, phrase ∈ phrases words ↔ ∃ word ∈ words, Text.terms word ≠ [] ∧
      Text.terms word = phrase := by
    intro phrase
    rw [phrases, List.mem_filter, List.mem_map, Bool.not_eq_true', List.isEmpty_eq_false_iff]
    constructor
    · rintro ⟨⟨word, hword, rfl⟩, hne⟩
      exact ⟨word, hword, hne, rfl⟩
    · rintro ⟨word, hword, hne, rfl⟩
      exact ⟨⟨word, hword, rfl⟩, hne⟩
  rw [nameMatches, Bool.and_eq_true, Bool.not_eq_true', List.isEmpty_eq_false_iff, List.all_eq_true]
  refine and_congr ?_ ?_
  · constructor
    · intro hne
      obtain ⟨phrase, hphrase⟩ := List.exists_mem_of_ne_nil _ hne
      obtain ⟨word, hword, hne, -⟩ := (hmem phrase).mp hphrase
      exact ⟨word, hword, hne⟩
    · rintro ⟨word, hword, hne⟩
      exact List.ne_nil_of_mem ((hmem _).mpr ⟨word, hword, hne, rfl⟩)
  · constructor
    · exact fun h word hword hne => holdsRun_iff.mp (h _ ((hmem _).mpr ⟨word, hword, hne, rfl⟩))
    · intro h phrase hphrase
      obtain ⟨word, hword, hne, rfl⟩ := (hmem phrase).mp hphrase
      exact holdsRun_iff.mpr (h word hword hne)

theorem admits_iff {scope : SetScope} {setCode : String} :
    admits scope setCode = true ↔ ∀ code, scope = .code code → setCode = code := by
  cases scope with
  | any | all => exact iff_of_true rfl nofun
  | code asked =>
    rw [admits, beq_iff_eq]
    constructor
    · rintro h code ⟨⟩
      exact h
    · exact fun h => h asked rfl

/-- What the tests of a lookup ask of a printing. -/
theorem candidate_iff {search : CardSearch} {printing : Printing} :
    IsCandidate (phrases (Text.words search.name.toList)) search.scope printing = true ↔
      Candidate search printing := by
  rw [IsCandidate, Bool.and_eq_true, Bool.and_eq_true, bne_iff_ne, nameMatches_phrases_iff,
    admits_iff]
  constructor
  · rintro ⟨⟨hpictured, hsearchable, hnamed⟩, hscope⟩
    exact ⟨hpictured, hscope, hsearchable, hnamed⟩
  · intro h
    exact ⟨⟨h.pictured, h.searchable, h.named⟩, h.inScope⟩

/-! ## The chosen printing -/

/-- The printing passes the tests and has the requested name in any case. -/
def Named (search : CardSearch) (printing : Printing) : Prop :=
  Candidate search printing ∧ Text.sameFolded printing.card.name search.name = true

/-- The first printing that passes the tests and has the requested name, or the first that passes
    the tests. -/
def chosen? (held : List Printing) (search : CardSearch) : Option Printing :=
  let isCandidate := IsCandidate (phrases (Text.words search.name.toList)) search.scope
  (held.find? fun printing => isCandidate printing &&
    Text.sameFolded printing.card.name search.name).or
    (held.find? isCandidate)

/-- The printing is the one to show: the first that has the requested name, or where none has it the
    first of all. -/
def IsChosen (held : List Printing) (search : CardSearch) (number : Nat) (printing : Printing) :
    Prop :=
  IsFirst held (Named search) number printing ∨
    (∀ other ∈ held, ¬ Named search other) ∧ IsFirst held (Candidate search) number printing

theorem chosen?_eq_none_iff {search : CardSearch} :
    chosen? held search = none ↔ ∀ printing ∈ held, ¬ Candidate search printing := by
  rw [chosen?, Option.or_eq_none_iff, List.find?_eq_none, List.find?_eq_none]
  simp only [candidate_iff, Bool.and_eq_true]
  exact ⟨fun h => h.2, fun h => ⟨fun printing hp hboth => h printing hp hboth.1, h⟩⟩

theorem isChosen_of_chosen? {search : CardSearch} {printing : Printing}
    (h : chosen? held search = some printing) :
    ∃ number, IsChosen held search number printing := by
  have hnamed :
      ∀ other, (IsCandidate (phrases (Text.words search.name.toList)) search.scope other &&
      Text.sameFolded other.card.name search.name) = true ↔ Named search other := by
    intro other
    rw [Bool.and_eq_true, candidate_iff, Named]
  rw [chosen?, Option.or_eq_some_iff, List.find?_eq_none] at h
  rcases h with h | ⟨hnone, h⟩
  · obtain ⟨number, hfirst⟩ := isFirst_of_find? h
    simp only [hnamed] at hfirst
    exact ⟨number, Or.inl hfirst⟩
  · obtain ⟨number, hfirst⟩ := isFirst_of_find? h
    simp only [candidate_iff] at hfirst
    exact ⟨number, Or.inr ⟨fun other hother => (hnamed other).not.mp (hnone other hother), hfirst⟩⟩

section

variable (hhold : Tables.Hold held tables)
  (hnames : tables.names = .ofEntries (tables.cards.entries.map Tables.nameRow))
  (hids : (held.map (·.card.id)).Nodup)

include hhold hnames hids

/-- Of the candidates, the chosen printing is picked. -/
theorem pick_candidates (search : CardSearch) :
    pick search.name (candidates tables (phrases (Text.words search.name.toList)) search.scope) =
      (chosen? held search).map printed := by
  have hor : ∀ found : List FoundCard, pick search.name found =
      (found.find? fun card => Text.sameFolded card.name search.name).or found.head? := by
    intro found
    rw [pick]
    cases found.find? fun card => Text.sameFolded card.name search.name <;> rfl
  rw [hor, candidates_eq hhold hnames hids, List.find?_map, List.find?_filter, List.head?_map,
    List.head?_filter,
    chosen?, Option.map_or]
  simp only [Bool.decide_and, Bool.decide_eq_true]
  rfl

/-- Without a character with number zero in the name, a lookup shows the chosen printing. -/
theorem lookup_eq (ht : store.tables = some tables) {search : CardSearch}
    (hnul : Text.NulFree search.name) :
    store.lookup search = .ok ((chosen? held search).map (shown tables search.scope)) := by
  by_cases hblank : Text.words search.name.toList = []
  · have hnone : chosen? held search = none := by
      refine chosen?_eq_none_iff.mpr fun printing _ hcandidate => ?_
      obtain ⟨word, hword, -⟩ := hcandidate.searchable
      rw [hblank] at hword
      cases hword
    rw [lookup_blank hblank, hnone]
    rfl
  · have hexpression : (expression search.name.toList).isEmpty = false :=
      List.isEmpty_eq_false_iff.mpr (mt expression_eq_nil_iff.mp hblank)
    have hfind :
        find tables search = .ok ((chosen? held search).map (shown tables search.scope)) := by
      simp only [find, quotedWords_expression hnul, bind, Except.bind,
        pick_candidates hhold hnames hids search]
      cases chosen? held search with
      | none => rfl
      | some printing => cases hscope : search.scope <;> rfl
    rw [Store.lookup, hexpression, ht, if_neg Bool.false_ne_true]
    change (find tables search).mapError _ = _
    rw [hfind]
    rfl

theorem lookup_eq_none_iff (ht : store.tables = some tables) {search : CardSearch}
    (hnul : Text.NulFree search.name) :
    store.lookup search = .ok none ↔ ∀ printing ∈ held, ¬ Candidate search printing := by
  rw [lookup_eq hhold hnames hids ht hnul, Except.ok.injEq, Option.map_eq_none_iff,
    chosen?_eq_none_iff]

end

/-- A name with a character with number zero cannot be looked up. -/
theorem lookup_of_nul (ht : store.tables = some tables) {search : CardSearch}
    (hnul : '\x00' ∈ search.name.toList) :
    store.lookup search = .error (.table .unterminatedString) := by
  have hreading := quotedWords_expression_of_nul hnul
  have hexpression : (expression search.name.toList).isEmpty = false := by
    rw [List.isEmpty_eq_false_iff]
    intro hnil
    rw [hnil] at hreading
    cases hreading
  have hfind : find tables search = .error .unterminatedString := by
    rw [find, hreading]
    rfl
  rw [Store.lookup, hexpression, ht, if_neg Bool.false_ne_true]
  change (find tables search).mapError _ = _
  rw [hfind]
  rfl

/-! ## The sets of a card -/

/-- The sets that are shown with a printing: its own, or where all are asked for those in which its
    name is printed, in the order of their bytes. -/
def IsSets (held : List Printing) (scope : SetScope) (printing : Printing) (sets : String) : Prop :=
  match scope with
  | .any | .code _ => sets = printing.setCode
  | .all => ∃ codes : List String, codes.Pairwise (fun a b => Text.utf8 a < Text.utf8 b) ∧
      (∀ code, code ∈ codes ↔ ∃ other ∈ held, other.card.name = printing.card.name ∧
        other.setCode = code) ∧
      sets = ", ".intercalate codes

theorem mem_setCodes_iff (hhold : Tables.Hold held tables) (hids : (held.map (·.card.id)).Nodup)
    {name code : String} :
    code ∈ setCodes tables name ↔ ∃ printing ∈ held, printing.card.name = name ∧
      printing.setCode = code := by
  have hcards : tables.cards.entries = held.map Printing.row := by
    rw [hhold.cards, Table.entries_ofEntries]
  have hsets : ∀ printing ∈ held, (tables.memberships.entries.filter (·.id == printing.row.id)).map
    (·.setCode) =
      [printing.setCode] := by
    intro printing hp
    rw [hhold.memberships, Table.entries_ofEntries]
    exact congrArg (List.map MembershipRow.setCode)
      (filter_map_id_eq Printing.membership MembershipRow.id (fun _ => rfl) hids hp)
  rw [setCodes, mem_sortedDistinct, hcards, List.mem_flatMap]
  constructor
  · rintro ⟨row, hrow, hcode⟩
    obtain ⟨hmem, hname⟩ := List.mem_filter.mp hrow
    obtain ⟨printing, hp, rfl⟩ := List.mem_map.mp hmem
    rw [hsets printing hp, List.mem_singleton] at hcode
    exact ⟨printing, hp, beq_iff_eq.mp hname, hcode.symm⟩
  · rintro ⟨printing, hp, hname, rfl⟩
    refine ⟨printing.row, List.mem_filter.mpr ⟨List.mem_map_of_mem hp, beq_iff_eq.mpr hname⟩, ?_⟩
    rw [hsets printing hp]
    exact List.mem_singleton_self _

theorem isSets_shown (hhold : Tables.Hold held tables) (hids : (held.map (·.card.id)).Nodup)
    (scope : SetScope)
    (printing : Printing) : IsSets held scope printing (shown tables scope printing).sets := by
  cases scope with
  | any | code => exact rfl
  | all => exact ⟨_, utf8_sortedDistinct _, fun _ => mem_setCodes_iff hhold hids, rfl⟩

/-! ## Lookups -/

/-- **Main theorem.** Let a store have gone through any steps, with distinct ids and the word index
    drawn up after the last printing, and look a card up. Without a candidate nothing is found, and
    else the chosen candidate is shown: its fields, and its set or all sets of its name. A character
    with number zero in the name makes every lookup fail. -/
theorem lookup_selects {medium : Medium} {steps : List Step}
    (ht : (Store.after { medium } steps).tables = some tables)
    (hids : ((printings.ofSteps medium steps).map (·.card.id)).Nodup)
    (hindexed : indexed.ofSteps medium steps = true) (search : CardSearch) :
    tables.cards.rows =
        (numbered (printings.ofSteps medium steps)).map
          (fun (number, printing) => (number, printing.row)) ∧
      ('\x00' ∈ search.name.toList →
        (Store.after { medium } steps).lookup search = .error (.table .unterminatedString)) ∧
      (Text.NulFree search.name →
        ((Store.after { medium } steps).lookup search = .ok none ↔
          ¬ ∃ printing ∈ printings.ofSteps medium steps, Candidate search printing) ∧
        ((∃ printing ∈ printings.ofSteps medium steps, Candidate search printing) →
          ∃ number printing sets, IsChosen (printings.ofSteps medium steps) search number printing ∧
            IsSets (printings.ofSteps medium steps) search.scope printing sets ∧
            (Store.after { medium } steps).lookup search =
              .ok (some ⟨printing.card.name, printing.card.manaCost,
              printing.card.text, printing.card.multiverseId, sets⟩))) := by
  have hhold : Tables.Hold (printings.ofSteps medium steps) tables := printings_tell.ofSteps ht
  have hnames := indexed_tell.ofSteps ht hindexed
  refine ⟨hhold.cardRows, lookup_of_nul ht, fun hnul => ⟨?_, fun hsome => ?_⟩⟩
  · rw [lookup_eq_none_iff hhold hnames hids ht hnul]
    simp only [not_exists, not_and]
  · cases hchosen : chosen? (printings.ofSteps medium steps) search with
    | none =>
      obtain ⟨printing, hp, hcandidate⟩ := hsome
      exact absurd hcandidate (chosen?_eq_none_iff.mp hchosen printing hp)
    | some printing =>
      obtain ⟨number, hprinting⟩ := isChosen_of_chosen? hchosen
      refine ⟨number, printing, _, hprinting, isSets_shown hhold hids search.scope printing, ?_⟩
      rw [lookup_eq hhold hnames hids ht hnul, hchosen]
      cases search.scope <;> rfl

/-- A card whose name goes on behind the one that is looked up. -/
def elfLord : Card where
  id := "1"
  name := "Elf Lord"
  multiverseId := 1

/-- A card that comes later. -/
def plainElf : Card where
  id := "2"
  name := "Elf"
  multiverseId := 2

/-- A store with the two cards, one after the other. -/
def elvenSteps : List Step :=
  [.migrate, .write [.addPrinting "ICE" elfLord, .addPrinting "LEA" plainElf, .rebuildIndex]]

theorem lookup_selects_elf :
    (Store.after {} elvenSteps).lookup ⟨"ELF", .any⟩ = .ok (some ⟨"Elf", "", "", 2, "LEA"⟩) := by
  have ht :
      (Store.after {} elvenSteps).tables = some ((Store.after {} elvenSteps).tables.getD {}) := rfl
  have hheld : printings.ofSteps .memory elvenSteps = [⟨"ICE", elfLord⟩, ⟨"LEA", plainElf⟩] := rfl
  obtain ⟨-, -, hall⟩ := lookup_selects ht (by decide) (by decide) ⟨"ELF", .any⟩
  obtain ⟨-, hfound⟩ := hall (by decide)
  have hnamed : Named ⟨"ELF", .any⟩ ⟨"LEA", plainElf⟩ :=
    ⟨candidate_iff.mp (by decide +kernel), by decide⟩
  have hmem : (⟨"LEA", plainElf⟩ : Printing) ∈ printings.ofSteps .memory elvenSteps :=
    List.Mem.tail _ (List.Mem.head _)
  obtain ⟨number, printing, sets, hchosen, hsets, hlookup⟩ := hfound ⟨_, hmem, hnamed.1⟩
  obtain hfirst | ⟨hnone, -⟩ := hchosen
  · have hprinting := mem_of_mem_numbered hfirst.mem
    rw [hheld, List.mem_pair] at hprinting
    rcases hprinting with rfl | rfl
    · exact absurd hfirst.holds.2 (by decide)
    · cases hsets
      exact hlookup
  · exact absurd hnamed (hnone _ hmem)

/-- A store with a card whose name has a character with number zero. -/
def nulSteps : List Step :=
  [.migrate, .write [.addPrinting "S" nulNamed, .rebuildIndex]]

/-- The lookup of this card by its name fails, although the card passes all tests. -/
theorem lookup_misses_candidate :
    ((printings.ofSteps .memory nulSteps).map (·.card.id)).Nodup ∧
      indexed.ofSteps .memory nulSteps = true ∧
      (⟨"S", nulNamed⟩ : Printing) ∈ printings.ofSteps .memory nulSteps ∧
      Candidate ⟨nulNamed.name, .any⟩ ⟨"S", nulNamed⟩ ∧
      (Store.after {} nulSteps).lookup ⟨nulNamed.name, .any⟩ =
        .error (.table .unterminatedString) :=
  ⟨by decide, by decide, List.Mem.head _, candidate_iff.mp (by decide +kernel), by decide +kernel⟩

end Lookup

end CardCensus
