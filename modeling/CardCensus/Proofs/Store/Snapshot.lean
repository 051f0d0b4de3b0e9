import CardCensus.Proofs.Number.Parts
import CardCensus.Store.Snapshot

/-!
# A snapshot gives the tables back

A store comes back from its file as it was written. Numbers end at a mark and texts after their
length, so each reader takes what its writer wrote and leaves the rest as it stands.

Results:
* `reads_writeCell`, `reads_writeRow`, `reads_writeRows`: cells, rows and tables.
* `read?_write`: all tables.
-/

namespace CardCensus.Store.Snapshot

variable {α : Type}

/-- The reader takes the text for the thing, and leaves what stands behind it. -/
def Reads (read : Reader α) (text : String) (x : α) : Prop :=
  ∀ rest, read (text.toList ++ rest) = some (x, rest)

/-! ## Numbers -/

theorem mark_notMem_toString (n : Int) : mark ∉ (toString n).toList := by
  cases n with
  | ofNat n =>
    rw [Number.toList_toString_ofNat]
    exact Number.notMem_toDigits (by decide) n
  | negSucc n =>
    rw [Number.toList_toString_negSucc, List.mem_cons, not_or]
    exact ⟨by decide, Number.notMem_toDigits (by decide) _⟩

/-- Behind what holds no mark, the mark is where reading ends. -/
theorem readUntil_of_notMem {text : String} (h : mark ∉ text.toList) (rest : List Char) :
    readUntil ((text ++ ";").toList ++ rest) = some (text.toList, rest) := by
  rw [String.toList_append, List.append_assoc]
  exact readUntil_append h rest

theorem reads_toString (n : Nat) : Reads readNat (toString n ++ ";") n := by
  have hmark : mark ∉ (toString n).toList := mark_notMem_toString (Int.ofNat n)
  intro rest
  rw [readNat, readUntil_of_notMem hmark]
  simp only [Option.bind_eq_bind, Option.bind_some, Number.decimal?_toString]

theorem reads_toString_int (n : Int) : Reads readInt (toString n ++ ";") n := by
  intro rest
  rw [readInt, readUntil_of_notMem (mark_notMem_toString n)]
  simp only [Option.bind_eq_bind, Option.bind_some, Number.signed?_toString]

/-! ## Cells -/

theorem reads_writeCell (cell : Value) : Reads readCell (writeCell cell) cell := by
  intro rest
  cases cell with
  | text s =>
    have htext : (writeCell (.text s)).toList ++ rest =
        't' :: ((toString s.length ++ ";").toList ++ (s.toList ++ rest)) := by
      simp only [writeCell, String.toList_append, List.append_assoc]
      rfl
    have hsize : s.length = s.toList.length := String.length_toList.symm
    rw [htext, readCell, reads_toString, hsize]
    simp
  | integer n =>
    have htext : (writeCell (.integer n)).toList ++ rest =
        'i' :: ((toString n ++ ";").toList ++ rest) := by
      simp only [writeCell, String.toList_append, List.append_assoc]
      rfl
    rw [htext, readCell, reads_toString_int]
    rfl
  | real x =>
    have htext : (writeCell (.real x)).toList ++ rest =
        'r' :: ((toString x.toBits.toNat ++ ";").toList ++ rest) := by
      simp only [writeCell, String.toList_append, List.append_assoc]
      rfl
    rw [htext, readCell, reads_toString, Option.map_some]
    simp only [UInt64.ofNat_toNat, Number.ofBits_toBits]
  | null => rfl

/-! ## Rows and tables -/

/-- Things that are read one by one are read together. -/
theorem reads_join {read : Reader α} {write : α → String} {xs : List α}
    (h : ∀ x ∈ xs, Reads read (write x) x) :
    Reads (readMany read xs.length) (String.join (xs.map write)) xs := by
  intro rest
  induction xs with
  | nil => rfl
  | cons x xs ih =>
    rw [List.forall_mem_cons] at h
    rw [List.map_cons, String.join_cons, String.toList_append, List.append_assoc, List.length_cons,
      readMany, h.1]
    simp only [Option.bind_eq_bind, Option.bind_some, ih h.2]

theorem reads_writeRow {width : Nat} {row : Nat × List Value} (h : row.2.length = width) :
    Reads (readRow width) (writeRow row) row := by
  subst h
  intro rest
  rw [writeRow, String.toList_append, List.append_assoc, readRow, reads_toString]
  simp only [Option.bind_eq_bind, Option.bind_some,
    reads_join (fun cell _ => reads_writeCell cell) rest]

theorem mapM_map {α β : Type} {back : β → Option α} {forth : α → β}
    (h : ∀ x, back (forth x) = some x) (xs : List α) : (xs.map forth).mapM back = some xs := by
  induction xs with
  | nil => rfl
  | cons x xs ih => simp only [List.map_cons, List.mapM_cons, h, ih, Option.bind_eq_bind,
      Option.bind_some, Option.pure_def]

/-- A table is read whose rows can be told from their cells. -/
theorem reads_writeRows {width : Nat} {ofCells? : List Value → Option α} (cells : α → List Value)
    (hwidth : ∀ x, (cells x).length = width) (hcells : ∀ x, ofCells? (cells x) = some x)
    (table : Table α) :
    Reads (readRows width ofCells?) (writeRows (table.rows.map fun row => (row.1, cells row.2)))
      table := by
  intro rest
  let written := table.rows.map fun row => (row.1, cells row.2)
  have hrows : Reads (readMany (readRow width) written.length) (String.join (written.map writeRow))
      written := by
    apply reads_join
    intro row hrow
    obtain ⟨row, -, rfl⟩ := List.mem_map.mp hrow
    exact reads_writeRow (hwidth row.2)
  have htaken : written.mapM (fun row => (ofCells? row.2).map (row.1, ·)) = some table.rows :=
    mapM_map (fun row => by rw [hcells]; rfl) table.rows
  have htable : Table.ofRows? table.rows = some table := dif_pos table.ascending
  change readRows width ofCells? ((writeRows written).toList ++ rest) = _
  rw [writeRows, String.append_assoc, String.toList_append, List.append_assoc, readRows,
    reads_toString]
  simp only [Option.bind_eq_bind, Option.bind_some]
  rw [String.toList_append, List.append_assoc, hrows]
  simp only [Option.bind_some]
  change (written.mapM (fun row => (ofCells? row.2).map (row.1, ·))).bind _ = _
  rw [htaken]
  simp only [Option.bind_some, htable]
  rfl

/-- So is a table whose rows are pairs of texts. -/
theorem reads_pairs {ofPair : String → String → α} (first second : α → String)
    (h : ∀ x, ofPair (first x) (second x) = x) (table : Table α) :
    Reads (readPairs ofPair)
      (writeRows (table.rows.map fun row => (row.1, [.text (first row.2), .text (second row.2)])))
      table :=
  reads_writeRows (fun x => [.text (first x), .text (second x)]) (fun _ => rfl)
    (fun x => congrArg some (h x)) table

theorem cardOfCells?_cells (card : CardRow) : cardOfCells? card.cells = some card := by
  obtain ⟨id, name, manaCost, cmc, typeLine, text, flavor, artist, number, power, toughness,
    loyalty,
    multiverseId, releaseDate⟩ := card
  cases cmc <;> cases power <;> cases toughness <;> cases loyalty <;> rfl

/-! ## All tables -/

theorem reads_tables (tables : Tables) : Reads readTables
    (String.join (TableName.all.map fun name => writeRows (tables.numberedCells name))) tables := by
  have hsets :
      Reads (readRows 5 setOfCells?) (writeRows (tables.numberedCells .sets)) tables.sets :=
    reads_writeRows setCells (fun _ => rfl) (fun _ => rfl) tables.sets
  have hcards : Reads (readRows 14 cardOfCells?) (writeRows (tables.numberedCells .cards))
      tables.cards :=
    reads_writeRows CardRow.cells (fun _ => rfl) cardOfCells?_cells tables.cards
  have hmemberships : Reads (readPairs MembershipRow.mk)
      (writeRows (tables.numberedCells .setMembership)) tables.memberships :=
    reads_pairs MembershipRow.setCode MembershipRow.id (fun _ => rfl) tables.memberships
  have hcolors : Reads (readRows 7 colorOfCells?) (writeRows (tables.numberedCells .color))
      tables.colors :=
    reads_writeRows ColorRow.cells (fun _ => rfl) (fun _ => rfl) tables.colors
  have hidentities : Reads (readRows 7 colorOfCells?)
      (writeRows (tables.numberedCells .colorIdentity)) tables.identities :=
    reads_writeRows ColorRow.cells (fun _ => rfl) (fun _ => rfl) tables.identities
  have haxis : ∀ axis, Reads (readPairs AxisRow.mk)
      (writeRows (tables.numberedCells (.axis axis))) (tables.axisRows axis) :=
    fun axis => reads_pairs AxisRow.id AxisRow.value (fun _ => rfl) (tables.axisRows axis)
  have hnames : Reads (readPairs NameRow.mk) (writeRows (tables.numberedCells .nameIndex))
      tables.names :=
    reads_pairs NameRow.id NameRow.name (fun _ => rfl) tables.names
  intro rest
  simp only [Reads] at *
  simp only [TableName.all, List.map_cons, List.map_nil, String.join_cons, String.join_nil,
    String.append_empty, String.toList_append, List.append_assoc, readTables, hsets, hcards,
    hmemberships, hcolors, hidentities, haxis, hnames, Option.bind_eq_bind, Option.bind_some]
  rfl

theorem isPrefixOf?_append (front rest : List Char) :
    front.isPrefixOf? (front ++ rest) = some rest := by
  induction front with
  | nil => rfl
  | cons c front ih => rw [List.cons_append, List.isPrefixOf?, beq_self_eq_true, if_pos rfl, ih]

/-- **Main theorem.** Reading what was written gives the same tables. -/
theorem read?_write (tables : Tables) : read? (write tables) = some tables := by
  have htables := reads_tables tables []
  rw [List.append_nil] at htables
  rw [read?, write, String.toList_append, isPrefixOf?_append]
  simp only [Option.bind_eq_bind, Option.bind_some, htables]

end CardCensus.Store.Snapshot
