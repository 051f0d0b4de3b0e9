import CardCensus.Answer
import CardCensus.Proofs.Lookup.Candidates
import CardCensus.Proofs.Query.RoundTrip
import CardCensus.Proofs.Sql.Limits
import CardCensus.Proofs.Store.Extrema
import CardCensus.Proofs.Store.Filtering

/-!
# Two ways to ask for a set

A match text and a lookup both restrict the cards of a name to a set. The match compares the upper
case of the code that is asked for with the stored codes in any case, while the lookup wants the
upper case letter by letter, and takes the word for all sets to be no code. So the two agree on
codes that are stored in upper case, that word apart.

Results:
* `countsSome_iff`: a match text counts a card exactly when its query retains a row.
* `ofText_name_code`: what a lookup of a name and a code searches for.
* `set_filters_agree`: what a match of a code and a name counts, and what the lookup of the two then
  finds.
-/

namespace CardCensus

/-! ## Counting -/

namespace Store

variable {store : Store} {tables : Tables}

/-- The match text asks for a number alone, and the answer is more than zero. -/
def CountsSome (store : Store) (text : String) : Prop :=
  ∃ n : Int, 0 < n ∧ (Answer.execute store false (.ofQuery (Match.ofText text).query)
    (Match.ofText text).requests).map Outcome.result = [.ok ⟨.integer n, none⟩]

/-- The standard request counts a card exactly when a row is retained. -/
theorem count_standard (ht : store.tables = some tables) {plan : Plan}
    (hlimits : Sql.WithinLimits plan .nothing) : ∃ n : Nat,
    store.aggregate plan .standard = .ok ⟨.integer n, none⟩ ∧
      (0 < n ↔ ∃ row, row ∈ tables.retained plan) := by
  have hid : Text.folded "id" = CardColumn.columnName .id := by decide
  have hcount : store.aggregate plan .standard = _ := count_eq_ncard ht hlimits hid
  have hzero : store.aggregate plan .standard = _ ↔ _ := count_eq_zero_iff ht hlimits hid
  refine ⟨_, hcount, ?_⟩
  rw [hcount, Except.ok.injEq, Aggregate.mk.injEq, Value.integer.injEq, Int.natCast_eq_zero,
    and_iff_left rfl] at hzero
  rw [Nat.pos_iff_ne_zero, ne_eq, hzero]
  constructor
  · intro h
    push Not at h
    obtain ⟨row, hrow, -⟩ := h
    obtain ⟨joined, hmem, -⟩ := (mem_grouped_iff.mp hrow).retained
    exact ⟨joined, hmem⟩
  · rintro ⟨joined, hmem⟩ hempty
    obtain ⟨row, -, -, hrow⟩ := exists_represents ⟨joined, hmem, rfl⟩
    exact Value.noConfusion (hempty row (mem_grouped_iff.mpr hrow))

/-- A query that is written alone counts a card exactly when it retains a row. -/
theorem countsSome_iff (ht : store.tables = some tables) {query : Query} (hquery : query.IsPlain)
    (hne : query.fields ≠ []) (hlimits : Sql.WithinLimits (Plan.ofQuery query) .nothing) :
    CountsSome store (query.write []) ↔ ∃ row, row ∈ tables.retained (Plan.ofQuery query) := by
  obtain ⟨n, hcount, hpos⟩ := count_standard ht hlimits
  rw [CountsSome, ofText_writeQuery hquery hne, ← hpos]
  change (∃ m : Int, 0 < m ∧ [store.aggregate (Plan.ofQuery query) .standard] =
    [.ok ⟨.integer m, none⟩]) ↔ 0 < n
  rw [hcount]
  constructor
  · rintro ⟨m, hm, heq⟩
    obtain rfl : (n : Int) = m := by simpa using heq
    exact Int.natCast_pos.mp hm
  · exact fun hn => ⟨n, Int.natCast_pos.mpr hn, rfl⟩

end Store

/-! ## Codes and names -/

/-- The name can be asked for in a match text and in a lookup alike. -/
structure IsAskable (name : String) : Prop where
  /-- Some character of the name is one that words are made of, such as a letter or a digit. -/
  searchable : ∃ c ∈ name.toList, Text.isTokenChar c = true
  comma : Clause.separator ∉ name.toList
  bar : CardSearch.setMark ∉ name.toList
  trimmed : Text.trim name.toList = name.toList
  unmarked : Negation.negated? name = none
  nulFree : Text.NulFree name

/-- The code is made of letters and digits of ASCII. -/
structure IsPlainCode (code : String) : Prop where
  filled : code ≠ ""
  alphanumeric : ∀ c ∈ code.toList, c.isAlphanum = true

namespace IsPlainCode

variable {code : String}

theorem notMem (h : IsPlainCode code) {c : Char} (hc : c.isAlphanum = false) : c ∉ code.toList := by
  intro hmem
  rw [h.alphanumeric c hmem] at hc
  cases hc

theorem trimmed (h : IsPlainCode code) : Text.trim code.toList = code.toList :=
  Text.trim_eq_self fun c hc => Text.isBlank_of_isAlphanum (h.alphanumeric c hc)

theorem unmarked (h : IsPlainCode code) : Negation.negated? code = none := by
  have hmark : Negation.mark ∉ code.toList := h.notMem (by decide)
  rw [Negation.negated?]
  cases hletters : code.toList with
  | nil => rfl
  | cons c rest =>
    rw [hletters, List.mem_cons, not_or] at hmark
    exact if_neg (Ne.symm hmark.1)

end IsPlainCode

/-- The query for the cards of a name in a set. -/
def setNameQuery (code name : String) : Query :=
  ⟨[(.set, [code]), (.name, [name])]⟩

theorem withinLimits_setNameQuery (code name : String) (outer : Sql.OuterTest) :
    Sql.WithinLimits (Plan.ofQuery (setNameQuery code name)) outer := by
  apply Sql.withinLimits_ofQuery
  · exact (by decide : 2 ≤ 490)
  · intro terms hentry
    rcases List.mem_pair.mp hentry with heq | heq <;> cases heq

theorem write_setNameQuery (code name : String) :
    (setNameQuery code name).write [] = "set:" ++ code ++ ",name:" ++ name := by
  rw [← String.toList_inj]
  simp [setNameQuery, Query.write, joinWith, List.intercalate, writeFilter, Field.display,
    Clause.separator,
    Clause.fieldMark]

variable {code name : String}

theorem isPlain_setNameQuery (hcode : IsPlainCode code) (hname : IsAskable name) :
    (setNameQuery code name).IsPlain where
  distinct := by simp [setNameQuery, Query.fieldNames]
  entries := by
    have hcodeValue : Clause.IsValue code :=
      ⟨hcode.notMem (by decide), hcode.notMem (by decide), hcode.trimmed⟩
    have hnameValue : Clause.IsValue name := ⟨hname.comma, hname.bar, hname.trimmed⟩
    intro entry hentry
    rcases List.mem_pair.mp hentry with rfl | rfl
    · exact ⟨True.intro, List.cons_ne_nil _ _, fun term hterm =>
        List.mem_singleton.mp hterm ▸ hcodeValue⟩
    · exact ⟨True.intro, List.cons_ne_nil _ _, fun term hterm =>
        List.mem_singleton.mp hterm ▸ hnameValue⟩

/-! ## What is found -/

namespace Store

variable {printing : Printing}

/-- A field with one plain term that it understands asks for what the term matches. -/
theorem Printing.satisfiesField_singleton {texts : Text.Comparison} {field : Field} {term : String}
    (hplain : Negation.negated? term = none) (hunderstood : field.Understands term) :
    printing.SatisfiesField texts field [term] ↔ printing.Matches texts field term := by
  have hpositives : Negation.positives [term] = [term] := by simp [Negation.positives, hplain]
  have hnegatives : Negation.negatives [term] = [] := by simp [Negation.negatives, hplain]
  have hterm : term ∈ Negation.positives [term] := by
    rw [hpositives]
    exact List.mem_singleton.mpr rfl
  constructor
  · intro h
    obtain ⟨found, hfound, -, hmatches⟩ := h.included ⟨term, hterm, hunderstood⟩
    rw [hpositives, List.mem_singleton] at hfound
    exact hfound ▸ hmatches
  · intro h
    constructor
    · intro other hother
      rw [hnegatives] at hother
      cases hother
    · exact fun _ => ⟨term, hterm, hunderstood, h⟩

/-- The printing has a picture, lies in the set of the code, and has the name, both in any case. -/
structure Printing.IsOf (printing : Printing) (code name : String) : Prop where
  pictured : printing.card.multiverseId ≠ 0
  code : Text.sameFolded printing.setCode code = true
  name : Text.sameFolded printing.card.name name = true

theorem Printing.satisfies_setNameQuery_iff (hcode : IsPlainCode code) (hname : IsAskable name) :
    printing.Satisfies .stored (setNameQuery code name) ↔ printing.IsOf code name := by
  have hset : printing.SatisfiesField .stored .set [code] ↔
      Text.sameFolded printing.setCode code = true := by
    have hunderstood : Field.set.Understands code := True.intro
    have hnul : Text.NulFree (Text.uppercased code) :=
      Text.nulFree_uppercased (hcode.notMem (by decide))
    rw [satisfiesField_singleton hcode.unmarked hunderstood, Text.sameFolded_iff,
      ← Text.fold_uppercased hcode.alphanumeric]
    exact Text.stored_same_iff_of_nulFree hnul
  have hcard : printing.SatisfiesField .stored .name [name] ↔
      Text.sameFolded printing.card.name name = true := by
    have hunderstood : Field.name.Understands name := True.intro
    rw [satisfiesField_singleton hname.unmarked hunderstood, Text.sameFolded_iff]
    exact Text.stored_same_iff_of_nulFree hname.nulFree
  constructor
  · intro h
    exact ⟨h.pictured, hset.mp (h.fields _ (List.Mem.head _)),
      hcard.mp (h.fields _ (List.Mem.tail _ (List.Mem.head _)))⟩
  · rintro ⟨hpictured, hsame, hnamed⟩
    refine ⟨hpictured, fun entry hentry => ?_⟩
    rcases List.mem_pair.mp hentry with rfl | rfl
    · exact hset.mpr hsame
    · exact hcard.mpr hnamed

/-- After an export, the match counts a card exactly when a printing of the export has the code and
    the name. -/
theorem countsSome_setNameQuery_iff {store : Store} {tables : Tables}
    (ht : store.tables = some tables)
    {held : List Printing} (hhold : Tables.Hold held tables) (hids : (held.map (·.card.id)).Nodup)
    (hcode : IsPlainCode code) (hname : IsAskable name) :
    CountsSome store ("set:" ++ code ++ ",name:" ++ name) ↔
      ∃ printing ∈ held, printing.IsOf code name := by
  rw [← write_setNameQuery, countsSome_iff ht (isPlain_setNameQuery hcode hname)
    (List.cons_ne_nil _ _)
    (withinLimits_setNameQuery code name .nothing)]
  constructor
  · rintro ⟨row, hrow⟩
    have hjoined := (Tables.mem_retained_iff.mp hrow).1
    rw [hhold.joined_eq hids] at hjoined
    obtain ⟨⟨number, printing⟩, hentry, rfl⟩ := List.mem_map.mp hjoined
    rw [mem_retained_iff_satisfies hhold hids hentry,
      Printing.satisfies_setNameQuery_iff hcode hname] at hrow
    exact ⟨printing, mem_of_mem_numbered hentry, hrow⟩
  · rintro ⟨printing, hp, hprinting⟩
    obtain ⟨number, hentry⟩ := exists_mem_numbered hp
    rw [← Printing.satisfies_setNameQuery_iff hcode hname,
      ← mem_retained_iff_satisfies hhold hids hentry] at hprinting
    exact ⟨_, hprinting⟩

end Store

namespace Lookup

open Store

/-- What a lookup of a name and a code searches for. -/
theorem ofText_name_code (hcode : IsPlainCode code) (hname : IsAskable name) :
    CardSearch.ofText (name ++ "|" ++ code) = ⟨name, CardSearch.scopeOf code.toList⟩ := by
  have htext : (name ++ "|" ++ code).toList = name.toList ++ CardSearch.setMark :: code.toList := by
    simp [CardSearch.setMark]
  rw [CardSearch.ofText, htext, Text.cutAtChar_append_cons hname.bar]
  simp only [Option.getD_some, hname.trimmed, hcode.trimmed, String.ofList_toList]

theorem scopeOf_code (hcode : IsPlainCode code) (hall : Text.folded code ≠ "all") :
    CardSearch.scopeOf code.toList = .code (Text.uppercased code) := by
  have hfilled : code.toList.isEmpty = false := by
    rw [List.isEmpty_eq_false_iff, ne_eq, String.toList_eq_nil_iff]
    exact hcode.filled
  have hword : (Text.fold code.toList == "all".toList) = false := by
    rw [beq_eq_false_iff_ne, ← Text.toList_folded, ne_eq, String.toList_inj]
    exact hall
  rw [CardSearch.scopeOf, hfilled, hword]
  rfl

theorem scopeOf_all (hall : Text.folded code = "all") : CardSearch.scopeOf code.toList = .all := by
  have hword : Text.fold code.toList = "all".toList := by rw [← Text.toList_folded, hall]
  have hfilled : code.toList.isEmpty = false := by
    rw [List.isEmpty_eq_false_iff]
    rintro hnil
    rw [hnil] at hword
    cases hword
  rw [CardSearch.scopeOf, hfilled, hword]
  rfl

/-- **Main theorem.** Take an export whose printings have distinct ids into any store, and ask for a
    name and a code of letters and digits. The match of the two counts a card exactly when a
    printing has both, in any case. The lookup of the two then finds a card of the name. If the code
    is not the word for all sets, and one of these printings has it in upper case, the set of the
    card is the code, in upper case. If it is that word, the sets of the card are all those that its
    name is printed in. -/
theorem set_filters_agree (store : Store) {sets : Export}
    (hids : ((exported sets).map (·.card.id)).Nodup)
    (hcode : IsPlainCode code) (hname : IsAskable name) :
    ∃ tables, store.take sets = ({ store with tables := some tables }, .ok sets.count) ∧
      (CountsSome (store.take sets).1 ("set:" ++ code ++ ",name:" ++ name) ↔
        ∃ printing ∈ exported sets, printing.IsOf code name) ∧
      (Text.folded code ≠ "all" →
        (∃ printing ∈ exported sets, printing.IsOf code name ∧
          printing.setCode = Text.uppercased code) →
        ∃ card, (store.take sets).1.lookup (.ofText (name ++ "|" ++ code)) = .ok (some card) ∧
          Text.sameFolded card.name name = true ∧ card.sets = Text.uppercased code ∧
          Text.sameFolded card.sets code = true) ∧
      (Text.folded code = "all" → (∃ printing ∈ exported sets, printing.IsOf code name) →
        ∃ card, (store.take sets).1.lookup (.ofText (name ++ "|" ++ code)) = .ok (some card) ∧
          Text.sameFolded card.name name = true ∧
            card.sets = joinedCodes (setCodes tables card.name)) := by
  have hhold := hold_exported sets
  have hnames := names_foldl_operations sets
  have ht : (store.take sets).1.tables = some (sets.operations.foldl Operation.effect {}) := by
    rw [take_eq]
  refine ⟨_, take_eq store sets, countsSome_setNameQuery_iff ht hhold hids hcode hname, ?_, ?_⟩
  · rintro hall ⟨printing, hp, hprinting, hupper⟩
    have hadmits : admits (.code (Text.uppercased code)) printing.setCode = true :=
      beq_iff_eq.mpr hupper
    rw [ofText_name_code hcode hname, scopeOf_code hcode hall]
    -- The card that is shown need not be of this printing, but the tests it passed fix its set and
    -- its name.
    obtain ⟨other, -, -, hothername, hother, hfound⟩ :=
      lookup_of_named ht hhold hnames hids hname.nulFree
      hname.searchable hp hprinting.pictured hprinting.name hadmits
    have hsets : other.setCode = Text.uppercased code := beq_iff_eq.mp hother
    refine ⟨_, hfound, hothername, hsets, ?_⟩
    rw [Text.sameFolded_iff, ← Text.fold_uppercased hcode.alphanumeric]
    exact congrArg (fun s : String => Text.fold s.toList) hsets
  · rintro hall ⟨printing, hp, hprinting⟩
    have hadmits : admits .all printing.setCode = true := rfl
    rw [ofText_name_code hcode hname, scopeOf_all hall]
    obtain ⟨other, -, -, hothername, -, hfound⟩ :=
      lookup_of_named ht hhold hnames hids hname.nulFree
      hname.searchable hp hprinting.pictured hprinting.name hadmits
    exact ⟨_, hfound, hothername, rfl⟩

/-- A card under the given id. -/
def elf (id : String) : Export.ExportedCard where
  id := id
  name := "Elf"
  multiverseId := some 1

/-- The card in a set that has the word for all sets as its code, and in another set. -/
def reservedExport : Export :=
  [("ALL", { name := "Allies", code := "ALL", cards := [elf "1"] }),
    ("LEA", { name := "Alpha", code := "LEA", cards := [elf "2"] })]

theorem isAskable_elf : IsAskable "elf" :=
  ⟨⟨'e', by decide, by decide⟩, by decide, by decide, by decide, by decide, by decide⟩

theorem set_filters_agree_lea : ∃ card,
    (Store.take {} reservedExport).1.lookup (.ofText ("elf" ++ "|" ++ "Lea")) = .ok (some card) ∧
      card.sets = "LEA" := by
  have hids : ((exported reservedExport).map (·.card.id)).Nodup := by decide
  have hcode : IsPlainCode "Lea" := ⟨by decide, List.all_eq_true.mp (by decide)⟩
  obtain ⟨-, -, -, hcoded, -⟩ := set_filters_agree {} hids hcode isAskable_elf
  have hp : ⟨"LEA", (elf "2").toCard ""⟩ ∈ exported reservedExport :=
    List.Mem.tail _ (List.Mem.head _)
  obtain ⟨card, hfound, -, hsets, -⟩ := hcoded (by decide)
    ⟨_, hp, ⟨by decide, by decide, by decide⟩, by decide⟩
  exact ⟨card, hfound, hsets⟩

/-- The card in a set whose code is stored in lower case. -/
def lowerExport : Export :=
  [("lea", { name := "Alpha", code := "lea", cards := [elf "1"] })]

/-- A card whose name is a vowel of New Tai Lue, a letter that the word index takes for a mark. -/
def vowelExport : Export :=
  [("LEA", { name := "Alpha", code := "LEA", cards := [{ elf "1" with name := "\u19b0" }] })]

/-- A card whose name goes on behind a character with number zero. -/
def nulExport : Export :=
  [("LEA", { name := "Alpha", code := "LEA", cards := [{ elf "1" with name := "a\x00b" }] })]

theorem countsSome_of_numbers {store : Store} {tables : Tables} (ht : store.tables = some tables)
    (hquery : (setNameQuery code name).IsPlain) {number : Nat}
    (h : (tables.retained (Plan.ofQuery (setNameQuery code name))).map (·.number) = [number]) :
    CountsSome store ("set:" ++ code ++ ",name:" ++ name) := by
  rw [← write_setNameQuery, countsSome_iff ht hquery (List.cons_ne_nil _ _)
    (withinLimits_setNameQuery code name .nothing)]
  have hmem : number ∈ (tables.retained (Plan.ofQuery (setNameQuery code name))).map (·.number) :=
    h ▸ List.mem_singleton.mpr rfl
  obtain ⟨row, hrow, -⟩ := List.mem_map.mp hmem
  exact ⟨row, hrow⟩

theorem setCodes_reserved :
    setCodes (reservedExport.operations.foldl Operation.effect {}) "Elf" = ["ALL", "LEA"] := by
  generalize htables : reservedExport.operations.foldl Operation.effect {} = tables
  have hcodes : ((tables.cards.entries.filter (·.name == "Elf")).flatMap fun card =>
      (tables.memberships.entries.filter (·.id == card.id)).map (·.setCode)) = ["ALL", "LEA"] := by
    rw [← htables]
    decide
  have hdistinct : ["ALL", "LEA"].eraseDups = ["ALL", "LEA"] := by decide
  rw [setCodes, hcodes, sortedDistinct, hdistinct]
  exact List.mergeSort_of_pairwise (by decide)

/-- The lookup that has the word for all sets shows all sets of the card. -/
theorem lookup_reserved : ∃ card,
    (Store.take {} reservedExport).1.lookup (.ofText "Elf|ALL") = .ok (some card) ∧
      card.sets = "ALL, LEA" := by
  have hids : ((exported reservedExport).map (·.card.id)).Nodup := by decide
  have hsearch : CardSearch.ofText "Elf|ALL" = ⟨"Elf", .all⟩ := by decide +kernel
  have hnul : Text.NulFree "Elf" := by decide
  have hp : ⟨"ALL", (elf "1").toCard ""⟩ ∈ exported reservedExport := List.Mem.head _
  have hadmits : admits .all "ALL" = true := rfl
  obtain ⟨other, hother, -, -, -, hfound⟩ :=
    lookup_of_named (congrArg (·.1.tables) (take_eq {} reservedExport))
    (hold_exported reservedExport) (names_foldl_operations reservedExport) hids hnul
      ⟨'E', by decide, by decide⟩
    hp (by decide) (by decide) hadmits
  have hname : other.card.name = "Elf" := by
    rcases List.mem_pair.mp hother with rfl | rfl <;> rfl
  refine ⟨_, hsearch ▸ hfound, ?_⟩
  change joinedCodes (setCodes _ other.card.name) = _
  rw [hname, setCodes_reserved]
  decide

/-- The two ways differ on the word for all sets, on a code in lower case, on a name that words are
    not made of, and on one with a character with number zero: the match counts a card each time,
    and the lookup shows other sets, no card or a failure. -/
theorem set_filters_differ :
    (CountsSome (Store.take {} reservedExport).1 ("set:" ++ "ALL" ++ ",name:" ++ "Elf") ∧
      ∃ card, (Store.take {} reservedExport).1.lookup (.ofText "Elf|ALL") = .ok (some card) ∧
        card.sets = "ALL, LEA") ∧
    (CountsSome (Store.take {} lowerExport).1 ("set:" ++ "lea" ++ ",name:" ++ "Elf") ∧
      (Store.take {} lowerExport).1.lookup (.ofText "Elf|lea") = .ok none) ∧
    (CountsSome (Store.take {} vowelExport).1 ("set:" ++ "LEA" ++ ",name:" ++ "\u19b0") ∧
      (Store.take {} vowelExport).1.lookup (.ofText "\u19b0|LEA") = .ok none) ∧
    CountsSome (Store.take {} nulExport).1 ("set:" ++ "LEA" ++ ",name:" ++ "a\x00b") ∧
      (Store.take {} nulExport).1.lookup (.ofText "a\x00b|LEA") =
        .error (.table .unterminatedString) := by
  refine ⟨⟨?_, lookup_reserved⟩,
    ⟨?_, by decide +kernel⟩, ⟨?_, by decide +kernel⟩, ?_, by decide +kernel⟩ <;>
    exact countsSome_of_numbers rfl (by decide) (by decide : _ = [1])

end Lookup

end CardCensus
