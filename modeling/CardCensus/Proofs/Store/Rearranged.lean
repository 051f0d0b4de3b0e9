import CardCensus.Proofs.Plan.Order
import CardCensus.Proofs.Store.Filtering
import CardCensus.Proofs.Store.Grouping
import CardCensus.Store.Aggregate

/-!
# Queries in another order

A query whose fields and terms stand in another order has a plan that joins in another order and
tests in another order. The joined rows come in another order too, and where an id has several rows
in a relation the order in which they are combined is not the same. What is retained is the same set
of rows, though, and the grouped relation depends on that set only.

Results:
* `mem_joined_iff_of_perm`: joins in another order join the same rows.
* `passes_fieldTests_of_perm`: terms in another order are the same test.
* `grouped_ofQuery_eq`: queries with the same terms have the same grouped relation.
-/

namespace CardCensus.Store

variable {tables : Tables}

/-! ## Joins -/

/-- What a relation has for the rows of a card: each of its rows for the card fills in its part. -/
def Tables.supplies (tables : Tables) (id : String) : Relation → List (JoinedRow → JoinedRow)
  | .cards => [fun row => row]
  | .setMembership => (tables.memberships.entries.filter (·.id == id)).map
      fun membership row => { row with setCode := some membership.setCode }
  | .color =>
    (tables.colors.entries.filter (·.id == id)).map fun color row =>
      { row with color := some color }
  | .colorIdentity => (tables.identities.entries.filter (·.id == id)).map
      fun identity row => { row with identity := some identity }

theorem mem_extend_iff {row joined : JoinedRow} {relation : Relation} :
    joined ∈ tables.extend row relation ↔ ∃ fill ∈ tables.supplies row.card.id relation,
      fill row = joined := by
  cases relation with
  | cards => simp [Tables.extend, Tables.supplies, eq_comm]
  | setMembership | color | colorIdentity => simp [Tables.extend, Tables.supplies]

theorem card_of_mem_supplies {id : String} {relation : Relation} {fill : JoinedRow → JoinedRow}
    (h : fill ∈ tables.supplies id relation) (row : JoinedRow) : (fill row).card = row.card := by
  cases relation with
  | cards =>
    obtain rfl := List.mem_singleton.mp h
    rfl
  | setMembership | color | colorIdentity =>
    obtain ⟨other, -, rfl⟩ := List.mem_map.mp h
    rfl

/-- Different relations fill in different parts. -/
theorem supplies_comm {id : String} {first second : Relation} (hne : first ≠ second)
    {fill other : JoinedRow → JoinedRow} (hfill : fill ∈ tables.supplies id first)
    (hother : other ∈ tables.supplies id second) (row : JoinedRow) :
    fill (other row) = other (fill row) := by
  have hcards : ∀ {fill : JoinedRow → JoinedRow}, fill ∈ tables.supplies id .cards →
      fill = fun row => row :=
    List.mem_singleton.mp
  cases first with
  | cards => rw [hcards hfill]
  | setMembership | color | colorIdentity =>
    obtain ⟨entry, -, rfl⟩ := List.mem_map.mp hfill
    cases second with
    | cards => rw [hcards hother]
    | setMembership | color | colorIdentity =>
      first
      | exact absurd rfl hne
      | (obtain ⟨entry', -, rfl⟩ := List.mem_map.mp hother
         rfl)

theorem mem_joinWith_iff {rows : List JoinedRow} {joined : JoinedRow} {relation : Relation} :
    joined ∈ tables.joinWith rows relation ↔
      ∃ row ∈ rows, ∃ fill ∈ tables.supplies row.card.id relation, fill row = joined := by
  rw [Tables.joinWith, List.mem_flatMap]
  exact exists_congr fun row => and_congr_right fun _ => mem_extend_iff

/-- Two relations can be joined in either order. -/
theorem mem_joinWith_comm {rows : List JoinedRow} {joined : JoinedRow} {first second : Relation}
    (h : joined ∈ tables.joinWith (tables.joinWith rows first) second) :
    joined ∈ tables.joinWith (tables.joinWith rows second) first := by
  by_cases heq : first = second
  · rwa [heq] at h ⊢
  · obtain ⟨between, hbetween, other, hother, rfl⟩ := mem_joinWith_iff.mp h
    obtain ⟨row, hrow, fill, hfill, rfl⟩ := mem_joinWith_iff.mp hbetween
    rw [card_of_mem_supplies hfill] at hother
    refine mem_joinWith_iff.mpr ⟨other row, mem_joinWith_iff.mpr ⟨row, hrow, other, hother, rfl⟩,
      fill, ?_,
      supplies_comm heq hfill hother row⟩
    rwa [card_of_mem_supplies hother]

theorem foldl_joinWith_mono {rows others : List JoinedRow} (h : rows ⊆ others)
    (joins : List Relation) :
    joins.foldl tables.joinWith rows ⊆ joins.foldl tables.joinWith others := by
  induction joins generalizing rows others with
  | nil => exact h
  | cons relation rest ih =>
    apply ih
    intro joined hjoined
    obtain ⟨row, hrow, hfill⟩ := mem_joinWith_iff.mp hjoined
    exact mem_joinWith_iff.mpr ⟨row, h hrow, hfill⟩

theorem foldl_joinWith_subset_of_perm {joins others : List Relation} (h : joins.Perm others)
    (rows : List JoinedRow) :
    joins.foldl tables.joinWith rows ⊆ others.foldl tables.joinWith rows := by
  induction h generalizing rows with
  | nil => exact List.Subset.refl _
  | cons relation _ ih => exact ih _
  | swap first second rest => exact foldl_joinWith_mono (fun _ => mem_joinWith_comm) rest
  | trans _ _ ih ih' => exact List.Subset.trans (ih rows) (ih' rows)

/-- Joins in another order join the same rows. -/
theorem mem_joined_iff_of_perm {plan other : Plan} (h : plan.joins.Perm other.joins)
    {row : JoinedRow} :
    row ∈ tables.joined plan ↔ row ∈ tables.joined other :=
  ⟨(foldl_joinWith_subset_of_perm h _ ·), (foldl_joinWith_subset_of_perm h.symm _ ·)⟩

/-! ## Tests -/

section Tests

variable {row : JoinedRow}

/-- The row passes all of the tests. -/
def PassesAll (tables : Tables) (row : JoinedRow) (predicates : List Predicate) : Prop :=
  ∀ predicate ∈ predicates, passes tables row predicate = true

theorem passesAll_choiceTests_of_perm {included included' excluded excluded' : List Predicate}
    (hincluded : included.Perm included') (hexcluded : excluded.Perm excluded')
    (h : PassesAll tables row (Plan.choiceTests included excluded)) :
    PassesAll tables row (Plan.choiceTests included' excluded') := by
  obtain ⟨hchoice, hrest⟩ := List.forall_mem_append.mp h
  rw [passes_disjunction_iff] at hchoice
  refine List.forall_mem_append.mpr ⟨passes_disjunction_iff.mpr fun hne => ?_,
    fun predicate hmem => ?_⟩
  · obtain ⟨predicate, hmem, hpasses⟩ := hchoice fun hnil => hne (hnil ▸ hincluded).nil_eq.symm
    exact ⟨predicate, hincluded.mem_iff.mp hmem, hpasses⟩
  · exact hrest predicate (hexcluded.mem_iff.mpr hmem)

theorem passes_oneOf_perm {values others : List String} (h : values.Perm others) (column : Column)
    (negated : Bool) :
    passes tables row (.oneOf column values negated) =
      passes tables row (.oneOf column others negated) := by
  rw [passes, passes]
  split
  · rw [h.any_eq]
  · rfl

theorem passesAll_nameTests_of_perm {column : Column}
    {positives positives' negatives negatives' : List String}
    (hpositives : positives.Perm positives') (hnegatives : negatives.Perm negatives')
    (h : PassesAll tables row (Plan.nameTests column positives negatives)) :
    PassesAll tables row (Plan.nameTests column positives' negatives') := by
  have hpart : ∀ {values others : List String} {negated : Bool}, values.Perm others →
      PassesAll tables row (if values.isEmpty then [] else [.oneOf column values negated]) →
      PassesAll tables row (if others.isEmpty then [] else [.oneOf column others negated]) := by
    intro values others negated hperm hpasses predicate hmem
    rw [← hperm.isEmpty_eq] at hmem
    split at hmem
    · cases hmem
    · rename_i hne
      rw [if_neg hne] at hpasses
      rw [List.mem_singleton.mp hmem, ← passes_oneOf_perm hperm]
      exact hpasses _ (List.mem_singleton.mpr rfl)
  obtain ⟨hfirst, hsecond⟩ := List.forall_mem_append.mp h
  exact List.forall_mem_append.mpr ⟨hpart hpositives hfirst, hpart hnegatives hsecond⟩

/-- Terms in another order are the same test. -/
theorem passes_fieldTests_of_perm {terms others : List String} (hperm : terms.Perm others)
    (field : Field)
    (h : PassesAll tables row (Plan.fieldTests field terms)) :
    PassesAll tables row (Plan.fieldTests field others) := by
  have hpositives := Plan.positives_perm hperm
  have hnegatives := Plan.negatives_perm hperm
  cases field with
  | name => exact passesAll_nameTests_of_perm hpositives hnegatives h
  | set => exact passesAll_nameTests_of_perm (hpositives.map _) (hnegatives.map _) h
  | color | colorIdentity =>
    exact passesAll_choiceTests_of_perm (Plan.colorTests_perm hpositives _ _)
      (Plan.colorTests_perm hnegatives _ _) h
  | type | supertype | rarity =>
    exact passesAll_choiceTests_of_perm (Plan.tagTests_perm hpositives _ _)
      (Plan.tagTests_perm hnegatives _ _) h
  | subtype =>
    exact passesAll_choiceTests_of_perm (Plan.subtypeTests_perm hpositives _)
      (Plan.subtypeTests_perm hnegatives _) h
  | unknown word => exact h

theorem passesAll_ofQuery {first second : Query} (hterms : first.SameTerms second)
    (h : PassesAll tables row (Plan.ofQuery first).predicates) :
    PassesAll tables row (Plan.ofQuery second).predicates := by
  rw [Plan.predicates_ofQuery] at h ⊢
  intro predicate hpredicate
  obtain ⟨entry, hentry, hmem⟩ := List.mem_flatMap.mp hpredicate
  obtain ⟨terms, hfield, hperm⟩ := hterms.right entry hentry
  refine passes_fieldTests_of_perm hperm.symm entry.1 (fun test htest => h test ?_) predicate hmem
  exact List.mem_flatMap.mpr ⟨_, hfield, htest⟩

end Tests

/-! ## What is retained -/

theorem retained_ofQuery_subset {first second : Query} (h : first.SameTerms second) :
    tables.retained (Plan.ofQuery first) ⊆ tables.retained (Plan.ofQuery second) := by
  intro row hrow
  obtain ⟨hjoined, hpictured, hpasses⟩ := Tables.mem_retained_iff.mp hrow
  exact Tables.mem_retained_iff.mpr
    ⟨(mem_joined_iff_of_perm (Plan.joins_ofQuery_perm h)).mp hjoined, hpictured,
      passesAll_ofQuery h hpasses⟩

/-- The order of texts does not depend on where they come from. -/
theorem sortedDistinct_congr {texts others : List String}
    (h : ∀ text, text ∈ texts ↔ text ∈ others) :
    sortedDistinct texts = sortedDistinct others :=
  sortedDistinct_eq_of_ascending (ascending_sortedDistinct others) fun text =>
    (h text).trans mem_sortedDistinct.symm

/-- The grouped relation depends on which rows are retained, and not on their order. -/
theorem grouped_eq_of_mem_retained_iff {plan other : Plan}
    (h : ∀ row, row ∈ tables.retained plan ↔ row ∈ tables.retained other) :
    tables.grouped plan = tables.grouped other := by
  have hnames : sortedDistinct ((tables.retained plan).map (·.card.name)) =
      sortedDistinct ((tables.retained other).map (·.card.name)) := by
    apply sortedDistinct_congr
    intro name
    simp only [List.mem_map, h]
  have hrepresents : ∀ {row : GroupedRow}, tables.Represents other row →
      tables.Represents plan row := by
    intro row hrow
    obtain ⟨joined, hjoined, hsame⟩ := hrow.retained
    exact ⟨hrow.stored, ⟨joined, (h joined).mpr hjoined, hsame⟩,
      fun joined hjoined => hrow.first joined ((h joined).mp hjoined)⟩
  rw [Tables.grouped, Tables.grouped, groupRows, groupRows, hnames]
  apply List.filterMap_congr
  intro name hname
  rw [mem_sortedDistinct, List.mem_map] at hname
  obtain ⟨joined, hjoined, hjoinedname⟩ := hname
  obtain ⟨row, hrow, hrowname, hfirst⟩ :=
    exists_represents ⟨joined, (h joined).mpr hjoined, hjoinedname⟩
  obtain ⟨row', hrow', hrowname', hsecond⟩ := exists_represents ⟨joined, hjoined, hjoinedname⟩
  rw [hrow, hrow', hfirst.unique (hrepresents hsecond) (hrowname.trans hrowname'.symm)]

/-- Queries with the same terms have the same grouped relation. -/
theorem grouped_ofQuery_eq {first second : Query} (h : first.SameTerms second) :
    tables.grouped (Plan.ofQuery first) = tables.grouped (Plan.ofQuery second) :=
  grouped_eq_of_mem_retained_iff fun _ =>
    ⟨(retained_ofQuery_subset h ·), (retained_ofQuery_subset h.symm ·)⟩

/-- Within the limits, an aggregate sees the grouped relation of its plan only. -/
theorem aggregate_eq_of_plans {store : Store} {plan other : Plan} {request : Request}
    (hplan : Sql.WithinLimits plan (outerTest request))
    (hother : Sql.WithinLimits other (outerTest request))
    (h : ∀ tables, store.tables = some tables → tables.grouped plan = tables.grouped other) :
    store.aggregate plan request = store.aggregate other request := by
  cases hcolumn : Sql.isIdentifier request.column with
  | false => rw [aggregate_of_not_isIdentifier hcolumn, aggregate_of_not_isIdentifier hcolumn]
  | true =>
    obtain ⟨_, hdepth⟩ := hplan.accepted
    obtain ⟨_, hotherDepth⟩ := hother.accepted
    have hserve : store.serve plan request = store.serve other request := by
      rw [serve_of_statementDepth hdepth, serve_of_statementDepth hotherDepth]
      cases htables : store.tables with
      | none => rfl
      | some tables =>
        have hgrouped : groupRows (tables.retained plan) = groupRows (tables.retained other) :=
          h tables htables
        simp only [select_of_short hplan.short, select_of_short hother.short, hgrouped]
    rw [aggregate_of_isIdentifier hcolumn, aggregate_of_isIdentifier hcolumn, hserve]

end CardCensus.Store
