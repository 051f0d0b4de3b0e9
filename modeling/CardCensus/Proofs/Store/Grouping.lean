import CardCensus.Proofs.Store.Addition
import CardCensus.Proofs.Text.Bytes

/-!
# One row for each name

The grouped relation has one row for each name among the retained rows: the retained printing of
that name with the least row number. A later printing of a name that is retained already is not seen
at all.

Results:
* `mem_grouped_iff`: the grouped rows are the first retained printings of their names.
* `grouped_names`: the names of the grouped rows are the retained names, each once.
* `utf8_grouped_names`: they ascend by their bytes.
* `grouped_addPrinting`: a later printing of a retained name leaves the grouped relation as it is.
-/

namespace CardCensus.Store

/-! ## Distinct names -/

theorem nodup_eraseDups {α : Type} [BEq α] [LawfulBEq α] : ∀ items : List α, items.eraseDups.Nodup
  | [] => List.nodup_nil
  | item :: rest => by
    rw [List.eraseDups_cons, List.nodup_cons]
    refine ⟨?_, nodup_eraseDups _⟩
    rw [List.mem_eraseDups, List.mem_filter]
    simp
termination_by items => items.length
decreasing_by exact Nat.lt_succ_of_le (List.length_filter_le _ _)

theorem mem_sortedDistinct {texts : List String} {text : String} :
    text ∈ sortedDistinct texts ↔ text ∈ texts := by
  rw [sortedDistinct, List.mem_mergeSort, List.mem_eraseDups]

theorem nodup_sortedDistinct (texts : List String) : (sortedDistinct texts).Nodup :=
  (List.mergeSort_perm _ _).nodup_iff.mpr (nodup_eraseDups texts)

theorem ascending_sortedDistinct (texts : List String) :
    (sortedDistinct texts).Pairwise (· < ·) := by
  have hsorted : (sortedDistinct texts).Pairwise fun a b => decide (a ≤ b) = true := by
    apply List.pairwise_mergeSort
    · intro a b c hab hbc
      exact decide_eq_true (String.le_trans (of_decide_eq_true hab) (of_decide_eq_true hbc))
    · intro a b
      rw [Bool.or_eq_true, decide_eq_true_eq, decide_eq_true_eq]
      exact String.le_total a b
  exact hsorted.imp₂ (fun _ _ hle hne => lt_of_le_of_ne (of_decide_eq_true hle) hne)
    (nodup_sortedDistinct texts)

/-- The texts ascend by their bytes. -/
theorem utf8_sortedDistinct (texts : List String) :
    (sortedDistinct texts).Pairwise fun a b => Text.utf8 a < Text.utf8 b :=
  (ascending_sortedDistinct texts).imp Text.utf8_lt_iff.mpr

/-- Texts have one ascending order. -/
theorem sortedDistinct_eq_of_ascending {texts ordered : List String} (h : ordered.Pairwise (· < ·))
    (hmem : ∀ text, text ∈ texts ↔ text ∈ ordered) : sortedDistinct texts = ordered := by
  have hperm : (sortedDistinct texts).Perm ordered := by
    rw [List.perm_ext_iff_of_nodup (nodup_sortedDistinct texts) (h.imp fun hlt => ne_of_lt hlt)]
    intro text
    rw [mem_sortedDistinct, hmem]
  refine List.Perm.eq_of_pairwise (fun a b _ _ hab hba => ?_) (ascending_sortedDistinct texts)
    h hperm
  exact absurd hba (String.lt_asymm hab)

/-- Texts that are there already add nothing. -/
theorem sortedDistinct_append {texts more : List String} (h : ∀ text ∈ more, text ∈ texts) :
    sortedDistinct (texts ++ more) = sortedDistinct texts := by
  have hnothing : more.removeAll texts = [] := by
    rw [List.removeAll, List.filter_eq_nil_iff]
    intro text htext
    simp [h text htext]
  rw [sortedDistinct, sortedDistinct, List.eraseDups_append, hnothing, List.eraseDups_nil,
    List.append_nil]

/-! ## The row that stands for a name -/

theorem before_iff {a b : JoinedRow} : a.before b = true ↔ a.number < b.number := by
  simp [JoinedRow.before]

/-- A name that a row has is stood for by a row of the name, and no row of the name has a lesser
    number. -/
theorem exists_representative? {rows : List JoinedRow} {name : String}
    (h : ∃ joined ∈ rows, joined.card.name = name) :
    ∃ joined ∈ rows, joined.card.name = name ∧
      representative? rows name = some ⟨joined.card, joined.number⟩ ∧
      ∀ other ∈ rows, other.card.name = name → joined.number ≤ other.number := by
  have hne : rows.filter (·.card.name == name) ≠ [] := by
    obtain ⟨joined, hmem, hname⟩ := h
    exact List.ne_nil_of_mem (List.mem_filter.mpr ⟨hmem, beq_iff_eq.mpr hname⟩)
  have htrans : ∀ a b c : JoinedRow, a.before b → b.before c → a.before c := by
    intro a b c hab hbc
    rw [before_iff] at hab hbc ⊢
    exact Nat.lt_trans hab hbc
  have hirrefl : ∀ a : JoinedRow, ¬ a.before a := by
    intro a
    rw [before_iff]
    exact Nat.lt_irrefl _
  obtain ⟨best, hbest, hfound, hleast⟩ := exists_least? htrans hirrefl hne
  obtain ⟨hmem, hname⟩ := List.mem_filter.mp hbest
  refine ⟨best, hmem, beq_iff_eq.mp hname, ?_, ?_⟩
  · rw [representative?, hfound]
    rfl
  · intro other hother hothername
    have hle := hleast other (List.mem_filter.mpr ⟨hother, beq_iff_eq.mpr hothername⟩)
    rw [before_iff] at hle
    exact Nat.le_of_not_lt hle

/-- Rows with greater numbers do not change which row stands for a name. -/
theorem representative?_append {rows news : List JoinedRow} {name : String}
    (h : ∃ joined ∈ rows, joined.card.name = name)
    (hlate : ∀ row ∈ rows, ∀ new ∈ news, row.number < new.number) :
    representative? (rows ++ news) name = representative? rows name := by
  obtain ⟨joined, hmem, -, hrepresentative, -⟩ := exists_representative? h
  rw [hrepresentative]
  rw [representative?, Option.map_eq_some_iff] at hrepresentative ⊢
  obtain ⟨best, hbest, heq⟩ := hrepresentative
  refine ⟨best, ?_, heq⟩
  rw [List.filter_append]
  apply least?_append hbest
  intro new hnew
  have hnumber : best.number = joined.number := congrArg GroupedRow.printing heq
  rw [before_iff, hnumber]
  exact Nat.not_lt_of_lt (hlate joined hmem new (List.mem_filter.mp hnew).1)

/-! ## The grouped relation -/

/-- The row stands for its name: it is a stored printing, retained by the plan, and no retained
    printing of its name has a lesser number. -/
structure Tables.Represents (tables : Tables) (plan : Plan) (row : GroupedRow) : Prop where
  stored : (row.printing, row.card) ∈ tables.cards.rows
  retained : ∃ joined ∈ tables.retained plan, joined.number = row.printing ∧ joined.card = row.card
  first : ∀ joined ∈ tables.retained plan, joined.card.name = row.card.name →
    row.printing ≤ joined.number

variable {tables : Tables} {plan : Plan}

/-- One name has one representative. -/
theorem Tables.Represents.unique {first second : GroupedRow} (h : tables.Represents plan first)
    (h' : tables.Represents plan second) (hname : first.card.name = second.card.name) :
    first = second := by
  obtain ⟨joined, hmem, hnumber, hcard⟩ := h.retained
  obtain ⟨joined', hmem', hnumber', hcard'⟩ := h'.retained
  have hle : first.printing ≤ second.printing :=
    hnumber' ▸ h.first joined' hmem' (by rw [hcard', hname])
  have hge : second.printing ≤ first.printing :=
    hnumber ▸ h'.first joined hmem (by rw [hcard, hname])
  have hprinting : first.printing = second.printing := Nat.le_antisymm hle hge
  have hstored := h.stored
  rw [hprinting] at hstored
  have hcards : first.card = second.card := Table.entry_unique hstored h'.stored
  exact congr (congrArg GroupedRow.mk hcards) hprinting

/-- The representative of a retained name. -/
theorem exists_represents {name : String}
    (h : ∃ joined ∈ tables.retained plan, joined.card.name = name) :
    ∃ row, representative? (tables.retained plan) name = some row ∧ row.card.name = name ∧
      tables.Represents plan row := by
  obtain ⟨joined, hmem, hname, hrepresentative, hfirst⟩ := exists_representative? h
  refine ⟨⟨joined.card, joined.number⟩, hrepresentative, hname, ?_⟩
  exact {
    stored := Tables.mem_cards_of_mem_retained hmem
    retained := ⟨joined, hmem, rfl, rfl⟩
    first := fun other hother hothername => hfirst other hother (hothername.trans hname) }

theorem mem_grouped_iff {row : GroupedRow} : row ∈ tables.grouped plan ↔
    tables.Represents plan row := by
  simp only [Tables.grouped, groupRows, List.mem_filterMap, mem_sortedDistinct, List.mem_map]
  constructor
  · rintro ⟨name, hname, hrow⟩
    obtain ⟨found, hfound, -, hrepresents⟩ := exists_represents hname
    rw [hfound, Option.some_inj] at hrow
    exact hrow ▸ hrepresents
  · intro h
    obtain ⟨joined, hmem, -, hcard⟩ := h.retained
    refine ⟨row.card.name, ⟨joined, hmem, congrArg CardRow.name hcard⟩, ?_⟩
    obtain ⟨found, hfound, hname, hrepresents⟩ :=
      exists_represents ⟨joined, hmem, congrArg CardRow.name hcard⟩
    rw [hfound, hrepresents.unique h hname]

theorem filterMap_map_of_forall {α β : Type} {f : α → Option β} {g : β → α} {items : List α}
    (h : ∀ item ∈ items, ∃ image, f item = some image ∧ g image = item) :
    (items.filterMap f).map g = items := by
  induction items with
  | nil => rfl
  | cons item rest ih =>
    rw [List.forall_mem_cons] at h
    obtain ⟨⟨image, himage, hback⟩, hrest⟩ := h
    rw [List.filterMap_cons_some himage, List.map_cons, hback, ih hrest]

theorem grouped_names : (tables.grouped plan).map (·.card.name) =
    sortedDistinct ((tables.retained plan).map (·.card.name)) := by
  apply filterMap_map_of_forall
  intro name hname
  rw [mem_sortedDistinct, List.mem_map] at hname
  obtain ⟨row, hrow, hrowname, -⟩ := exists_represents hname
  exact ⟨row, hrow, hrowname⟩

theorem nodup_grouped_names (tables : Tables) (plan : Plan) :
    ((tables.grouped plan).map (·.card.name)).Nodup := by
  rw [grouped_names]
  exact nodup_sortedDistinct _

/-- The rows ascend by the bytes of their names. -/
theorem utf8_grouped_names (tables : Tables) (plan : Plan) :
    (tables.grouped plan).Pairwise fun a b => Text.utf8 a.card.name < Text.utf8 b.card.name := by
  rw [← List.pairwise_map (f := fun row : GroupedRow => row.card.name)
    (R := fun a b => Text.utf8 a < Text.utf8 b), grouped_names]
  exact utf8_sortedDistinct _

theorem mem_grouped_names {name : String} : name ∈ (tables.grouped plan).map (·.card.name) ↔
    ∃ joined ∈ tables.retained plan, joined.card.name = name := by
  rw [grouped_names, mem_sortedDistinct, List.mem_map]

/-- A store without cards has no names. -/
theorem grouped_empty (plan : Plan) : ({} : Tables).grouped plan = [] := by
  rw [List.eq_nil_iff_forall_not_mem]
  intro row hrow
  exact nomatch (mem_grouped_iff.mp hrow).stored

/-! ## Reprints -/

/-- A printing with a new id, of a name that is retained already, is not seen in the grouped
    relation. -/
theorem grouped_addPrinting {setCode : String} {card : Card}
    (hfresh : ∀ row ∈ tables.cards.entries, row.id ≠ card.id)
    (hname : ∃ joined ∈ tables.retained plan, joined.card.name = card.name) :
    (tables.addPrinting setCode card).grouped plan = tables.grouped plan := by
  obtain ⟨news, hretained, hnews⟩ := retained_addPrinting setCode hfresh plan
  have hlate : ∀ row ∈ tables.retained plan, ∀ new ∈ news, row.number < new.number := by
    intro row hrow new hnew
    rw [(hnews new hnew).1]
    exact number_lt_nextNumber (Tables.mem_cards_of_mem_retained hrow)
  have hnames :
      ∀ name ∈ news.map (·.card.name), name ∈ (tables.retained plan).map (·.card.name) := by
    intro name hmem
    obtain ⟨new, hnew, rfl⟩ := List.mem_map.mp hmem
    rw [(hnews new hnew).2]
    exact List.mem_map.mpr hname
  rw [Tables.grouped, Tables.grouped, hretained, groupRows, groupRows, List.map_append,
    sortedDistinct_append hnames]
  apply List.filterMap_congr
  intro name hmem
  rw [mem_sortedDistinct, List.mem_map] at hmem
  exact representative?_append hmem hlate

end CardCensus.Store
