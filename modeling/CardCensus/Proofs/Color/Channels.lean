import CardCensus.Color
import CardCensus.Proofs.Text.Folding
import CardCensus.Proofs.Text.Split

/-!
# The channels that a text stands for

Masks are made in two ways. A colour term is a word for no colour or a row of channel letters, and
with anything else in it it stands for nothing. A list of names may hold anything, and what is no
name of a channel is passed over. Either way the mask is a set: it has the channels that are written
somewhere, wherever and however often that is.

Results:
* `Channel.ofLetter?_eq_some_iff`, `channelOfName?_eq_some_iff`: which channel a character and a
  name stand for.
* `ofTerm?_eq_some_iff`: which terms stand for a mask, and for which.
* `ofTerm?_eq_of_mem_iff`: order, number and case of the characters do not count.
* `has_ofNames_iff`: the channels of a list of names.
* `terms_and_names_denote_channels`: both readings, and that they agree on lists of letters.
-/

namespace CardCensus

/-! ## Letters and names of a channel -/

namespace Channel

variable {channel : Channel}

/-- The character is the channel's letter, in either case. -/
def IsLetter (channel : Channel) (c : Char) : Prop :=
  c = channel.letter ∨ c = channel.letter.toUpper

/-- The channel's letter stands in the text, in either case. -/
def OccursIn (channel : Channel) (s : List Char) : Prop :=
  ∃ c ∈ s, channel.IsLetter c

/-- The name is the channel's long name or its letter alone, in any case. -/
def IsCalled (channel : Channel) (name : String) : Prop :=
  Text.sameFolded name channel.longName = true ∨ ∃ c, name = String.singleton c ∧ channel.IsLetter c

theorem letter_bounds (channel : Channel) : 97 ≤ channel.letter.toNat ∧ channel.letter.toNat ≤ 122 ∧
    channel.letter.toUpper.toNat + 32 = channel.letter.toNat := by
  cases channel <;> decide

theorem letter_injective : Function.Injective letter := by
  intro a b
  cases a <;> cases b <;> decide

theorem longName_injective : Function.Injective longName := by
  intro a b
  cases a <;> cases b <;> decide

theorem fold_longName (channel : Channel) :
    Text.fold channel.longName.toList = channel.longName.toList := by
  cases channel <;> decide

theorem isLetter_iff {c : Char} : channel.IsLetter c ↔ c.toLower = channel.letter := by
  obtain ⟨hlow, hhigh, hupper⟩ := channel.letter_bounds
  rw [IsLetter, ← Char.toNat_inj, ← Char.toNat_inj, ← Char.toNat_inj, Text.toNat_toLower]
  split <;> omega

theorem occursIn_iff {s : List Char} : channel.OccursIn s ↔ channel.letter ∈ Text.fold s := by
  simp [OccursIn, Text.fold, isLetter_iff]

/-- A test that holds of one channel at most finds the channel that it holds of. -/
theorem find?_all_eq_some_iff {test : Channel → Bool}
    (h : ∀ a b, test a = true → test b = true → a = b) :
    all.find? test = some channel ↔ test channel = true := by
  constructor
  · exact List.find?_some
  · intro hchannel
    cases hfound : all.find? test with
    | none => exact absurd hchannel (List.find?_eq_none.mp hfound channel (mem_all channel))
    | some other => rw [h other channel (List.find?_some hfound) hchannel]

theorem ofLetter?_eq_some_iff {c : Char} : ofLetter? c = some channel ↔ channel.IsLetter c := by
  rw [ofLetter?, find?_all_eq_some_iff, beq_iff_eq, isLetter_iff, eq_comm]
  intro a b ha hb
  exact letter_injective ((beq_iff_eq.mp ha).trans (beq_iff_eq.mp hb).symm)

theorem ofName?_eq_some_iff {name : String} :
    ofName? name = some channel ↔ Text.sameFolded name channel.longName = true := by
  rw [ofName?, find?_all_eq_some_iff, beq_iff_eq, Text.sameFolded_iff, fold_longName, eq_comm]
  intro a b ha hb
  exact longName_injective (String.toList_inj.mp ((beq_iff_eq.mp ha).trans (beq_iff_eq.mp hb).symm))

/-- No long name is as short as a letter. -/
theorem ofName?_singleton (c : Char) : ofName? (String.singleton c) = none := by
  have hlong : ∀ channel ∈ all, channel.longName.toList.length ≠ 1 := by decide
  rw [ofName?, List.find?_eq_none]
  intro channel hmem hname
  apply hlong channel hmem
  rw [beq_iff_eq.mp hname]
  simp [Text.fold]

theorem isCalled_singleton_iff {c : Char} : channel.IsCalled (String.singleton c) ↔
    channel.IsLetter c := by
  constructor
  · rintro (hlong | ⟨d, hname, hletter⟩)
    · rw [← ofName?_eq_some_iff, ofName?_singleton] at hlong
      cases hlong
    · rwa [String.singleton_inj.mp hname]
  · exact fun h => .inr ⟨c, rfl, h⟩

theorem isBlank_of_isLetter {c : Char} (h : channel.IsLetter c) : Text.isBlank c = false := by
  rw [← Text.isBlank_toLower, isLetter_iff.mp h]
  cases channel <;> decide

end Channel

namespace ColorMask

variable {channel : Channel} {term : String} {mask : ColorMask}

/-! ## Rows of letters -/

/-- The text is a row of channel letters. -/
def IsRow (s : List Char) : Prop :=
  ∀ c ∈ s, ∃ channel : Channel, channel.IsLetter c

theorem isRow_iff {s : List Char} : IsRow s ↔ ∀ c ∈ Text.fold s, ∃ channel : Channel,
    c = channel.letter := by
  simp [IsRow, Text.fold, Channel.isLetter_iff]

/-- The rows of channel letters are those that can be read. -/
theorem isSome_ofLetters?_iff {s : List Char} : (ofLetters? s).isSome = true ↔ IsRow s := by
  induction s with
  | nil => simp [ofLetters?, IsRow]
  | cons c rest ih =>
    have hfirst : (Channel.ofLetter? c).isSome = true ↔
        ∃ channel : Channel, channel.IsLetter c := by
      simp only [Option.isSome_iff_exists, Channel.ofLetter?_eq_some_iff]
    rw [IsRow, List.forall_mem_cons, ← IsRow, ← ih, ← hfirst, ofLetters?]
    cases Channel.ofLetter? c <;> cases ofLetters? rest <;> simp

/-- The mask of a row has the channels whose letters stand in it. -/
theorem has_ofLetters?_iff {s : List Char} (h : ofLetters? s = some mask) :
    mask.has channel = true ↔ channel.OccursIn s := by
  induction s generalizing mask with
  | nil =>
    cases h
    simp [has_colorless, Channel.OccursIn]
  | cons c rest ih =>
    simp only [ofLetters?, Option.bind_eq_bind, Option.bind_eq_some_iff, Option.pure_def,
      Option.some.injEq] at h
    obtain ⟨first, hfirst, others, hothers, rfl⟩ := h
    have hletter : first = channel ↔ channel.IsLetter c := by
      rw [← Channel.ofLetter?_eq_some_iff, hfirst, Option.some.injEq]
    rw [has_insert, Bool.or_eq_true, decide_eq_true_eq, hletter, ih hothers]
    simp [Channel.OccursIn]

/-! ## Colour terms -/

/-- The term is a word for no colour, between blanks and in any case. -/
def IsColorlessWord (term : String) : Prop :=
  Text.sameFolded (Text.trimmed term) "c" = true ∨ Text.sameFolded (Text.trimmed term) "colorless" =
    true

theorem isColorlessWord_iff : IsColorlessWord term ↔
    (colorlessWords.any fun word => word.toList == Text.fold (Text.trim term.toList)) = true := by
  have hshort : Text.fold "c".toList = "c".toList := by decide
  have hlong : Text.fold "colorless".toList = "colorless".toList := by decide
  simp only [IsColorlessWord, Text.sameFolded_iff, Text.trimmed, String.toList_ofList, hshort,
    hlong, colorlessWords,
    List.any_cons, List.any_nil, Bool.or_false, Bool.or_eq_true, beq_iff_eq]
  exact or_congr eq_comm eq_comm

theorem ofTerm?_of_isColorlessWord (h : IsColorlessWord term) : ofTerm? term = some colorless :=
  if_pos (isColorlessWord_iff.mp h)

theorem ofTerm?_of_not_isColorlessWord (h : ¬ IsColorlessWord term) :
    ofTerm? term = ofLetters? (Text.trim term.toList) :=
  if_neg (mt isColorlessWord_iff.mpr h)

/-- A row of letters is no word: a channel letter is not the first letter of one. -/
theorem not_isColorlessWord_of_isRow (h : IsRow (Text.trim term.toList)) :
    ¬ IsColorlessWord term := by
  have hfirst : ∀ channel : Channel, 'c' ≠ channel.letter := by
    intro channel
    cases channel <;> decide
  intro hword
  have hmem : 'c' ∈ Text.fold (Text.trim term.toList) := by
    rcases hword with hword | hword
    all_goals
      rw [Text.sameFolded_iff, Text.trimmed, String.toList_ofList] at hword
      rw [hword]
      decide
  obtain ⟨channel, hletter⟩ := isRow_iff.mp h 'c' hmem
  exact hfirst channel hletter

/-- The terms that stand for a mask are the words for no colour and the rows of letters. -/
theorem isSome_ofTerm?_iff :
    (ofTerm? term).isSome = true ↔ IsColorlessWord term ∨ IsRow (Text.trim term.toList) := by
  by_cases hword : IsColorlessWord term
  · simp [ofTerm?_of_isColorlessWord hword, hword]
  · rw [ofTerm?_of_not_isColorlessWord hword, isSome_ofLetters?_iff, or_iff_right hword]

/-- The mask of a term has the channels whose letters stand in it; a word for no colour has none. -/
theorem has_ofTerm?_iff (h : ofTerm? term = some mask) :
    mask.has channel = true ↔ ¬ IsColorlessWord term ∧
      channel.OccursIn (Text.trim term.toList) := by
  by_cases hword : IsColorlessWord term
  · rw [ofTerm?_of_isColorlessWord hword, Option.some.injEq] at h
    simp [← h, has_colorless, hword]
  · rw [ofTerm?_of_not_isColorlessWord hword] at h
    rw [has_ofLetters?_iff h, and_iff_right hword]

/-- The masks that a term stands for: one, if the term is a word for no colour or a row
    of letters. -/
theorem ofTerm?_eq_some_iff : ofTerm? term = some mask ↔
    (IsColorlessWord term ∨ IsRow (Text.trim term.toList)) ∧
      ∀ channel : Channel, mask.has channel = true ↔
        ¬ IsColorlessWord term ∧ channel.OccursIn (Text.trim term.toList) := by
  constructor
  · intro h
    exact ⟨isSome_ofTerm?_iff.mp (Option.isSome_of_eq_some h), fun _ => has_ofTerm?_iff h⟩
  · rintro ⟨hterm, hmask⟩
    obtain ⟨read, hread⟩ := Option.isSome_iff_exists.mp (isSome_ofTerm?_iff.mpr hterm)
    rw [hread, Option.some.injEq]
    apply ext_has
    intro channel
    rw [Bool.eq_iff_iff, has_ofTerm?_iff hread, hmask]

/-- Terms with the same characters, in any order, number and case, stand for the same. -/
theorem ofTerm?_eq_of_mem_iff {other : String}
    (hword : IsColorlessWord term ↔ IsColorlessWord other)
    (hmem : ∀ c, c ∈ Text.fold (Text.trim term.toList) ↔ c ∈ Text.fold (Text.trim other.toList)) :
    ofTerm? term = ofTerm? other := by
  have hrow : IsRow (Text.trim term.toList) ↔ IsRow (Text.trim other.toList) := by
    simp only [isRow_iff, hmem]
  have hoccurs : ∀ channel : Channel,
      channel.OccursIn (Text.trim term.toList) ↔ channel.OccursIn (Text.trim other.toList) := by
    simp only [Channel.occursIn_iff, hmem, implies_true]
  apply Option.ext
  intro mask
  simp only [ofTerm?_eq_some_iff, hword, hrow, hoccurs]

/-! ## Lists of names -/

theorem channelOfName?_eq_some_iff {name : String} : channelOfName? name = some channel ↔
    channel.IsCalled name := by
  constructor
  · intro h
    rw [channelOfName?] at h
    split at h
    · rename_i first hfirst
      rw [← Option.some.inj h]
      exact .inl (Channel.ofName?_eq_some_iff.mp hfirst)
    · split at h
      · rename_i c hname
        exact .inr ⟨c, String.toList_inj.mp (hname.trans (String.toList_singleton c).symm),
          Channel.ofLetter?_eq_some_iff.mp h⟩
      · cases h
  · rintro (hlong | ⟨c, rfl, hletter⟩)
    · rw [channelOfName?, Channel.ofName?_eq_some_iff.mpr hlong]
    · rw [channelOfName?, Channel.ofName?_singleton, String.toList_singleton]
      exact Channel.ofLetter?_eq_some_iff.mpr hletter

theorem has_foldl_insert {channels : List Channel} :
    (channels.foldl insert mask).has channel = true ↔
      channel ∈ channels ∨ mask.has channel = true := by
  induction channels generalizing mask with
  | nil => simp
  | cons first rest ih =>
    rw [List.foldl_cons, ih, has_insert, Bool.or_eq_true, decide_eq_true_eq, List.mem_cons,
      eq_comm (a := first)]
    tauto

/-- The mask of a list of names has the channels that one of them calls. -/
theorem has_ofNames_iff {names : List String} :
    (ofNames names).has channel = true ↔ ∃ name ∈ names, channel.IsCalled name := by
  rw [ofNames, has_foldl_insert]
  simp [has_colorless, channelOfName?_eq_some_iff]

/-! ## Both readings -/

theorem join_map_singleton (letters : List Char) :
    String.join (letters.map String.singleton) = String.ofList letters := by
  induction letters with
  | nil => rfl
  | cons c rest ih => rw [List.map_cons, String.join_cons, ih, String.ofList_cons]

/-- A list of letters and the row of them stand for the same mask. -/
theorem ofTerm?_join_singleton {letters : List Char} (h : IsRow letters) :
    ofTerm? (String.join (letters.map String.singleton)) =
      some (ofNames (letters.map String.singleton)) := by
  have htrim : Text.trim (String.join (letters.map String.singleton)).toList = letters := by
    rw [join_map_singleton, String.toList_ofList]
    apply Text.trim_eq_self
    intro c hc
    obtain ⟨channel, hletter⟩ := h c hc
    exact Channel.isBlank_of_isLetter hletter
  have hword : ¬ IsColorlessWord (String.join (letters.map String.singleton)) :=
    not_isColorlessWord_of_isRow (by rwa [htrim])
  rw [ofTerm?_eq_some_iff, htrim]
  refine ⟨.inr h, fun channel => ?_⟩
  rw [has_ofNames_iff, and_iff_right hword]
  simp [Channel.OccursIn, Channel.isCalled_singleton_iff]

/-- **Main theorem.** A term stands for a mask exactly if it is a word for no colour or a row of
    channel letters, and a channel is in the mask exactly if its letter stands in the row. So the
    order and the number of the characters and their case do not count. The mask of a list of names
    has the channels that the list calls, whatever else is in it, and a list of letters has the mask
    of the row of them. -/
theorem terms_and_names_denote_channels :
    (∀ term, (ofTerm? term).isSome = true ↔ IsColorlessWord term ∨ IsRow (Text.trim term.toList)) ∧
    (∀ term mask channel, ofTerm? term = some mask →
      (mask.has channel = true ↔ ¬ IsColorlessWord term ∧
        channel.OccursIn (Text.trim term.toList))) ∧
    (∀ term other, (IsColorlessWord term ↔ IsColorlessWord other) →
      (∀ c, c ∈ Text.fold (Text.trim term.toList) ↔ c ∈ Text.fold (Text.trim other.toList)) →
      ofTerm? term = ofTerm? other) ∧
    (∀ names channel, (ofNames names).has channel = true ↔ ∃ name ∈ names, channel.IsCalled name) ∧
    ∀ letters, IsRow letters →
      ofTerm? (String.join (letters.map String.singleton)) =
        some (ofNames (letters.map String.singleton)) :=
  ⟨fun _ => isSome_ofTerm?_iff, fun _ _ _ => has_ofTerm?_iff, fun _ _ => ofTerm?_eq_of_mem_iff,
    fun _ _ => has_ofNames_iff, fun _ => ofTerm?_join_singleton⟩

/-- Black and red as a row between blanks with a letter in both cases, as a shorter row, and as a
    list of letters. -/
theorem terms_and_names_denote_channels_blackRed :
    ofTerm? " bRB\t" = some { black := true, red := true } ∧
    (Channel.black.OccursIn (Text.trim " bRB\t".toList) ∧
      ¬ Channel.green.OccursIn (Text.trim " bRB\t".toList)) ∧
    ¬ IsColorlessWord " bRB\t" ∧ ¬ IsColorlessWord "rb" ∧
    (∀ c, c ∈ Text.fold (Text.trim " bRB\t".toList) ↔ c ∈ Text.fold (Text.trim "rb".toList)) ∧
    ofTerm? " bRB\t" = ofTerm? "rb" ∧
    IsRow ['b', 'R', 'B'] ∧ ofTerm? (String.join (['b', 'R', 'B'].map String.singleton)) =
      some (ofNames (['b', 'R', 'B'].map String.singleton)) := by
  obtain ⟨-, hhas, hsame, -, hlist⟩ := terms_and_names_denote_channels
  have hterm : ofTerm? " bRB\t" = some { black := true, red := true } := by decide
  have hrow : IsRow (Text.trim " bRB\t".toList) := isSome_ofLetters?_iff.mp (by decide)
  have hother : IsRow (Text.trim "rb".toList) := isSome_ofLetters?_iff.mp (by decide)
  have hword := not_isColorlessWord_of_isRow hrow
  have hotherWord := not_isColorlessWord_of_isRow hother
  have hmem : ∀ c, c ∈ Text.fold (Text.trim " bRB\t".toList) ↔
      c ∈ Text.fold (Text.trim "rb".toList) := by
    have hfold : Text.fold (Text.trim " bRB\t".toList) = ['b', 'r', 'b'] := by decide
    have hotherFold : Text.fold (Text.trim "rb".toList) = ['r', 'b'] := by decide
    intro c
    rw [hfold, hotherFold]
    simp [or_comm]
  have hletters : IsRow ['b', 'R', 'B'] := isSome_ofLetters?_iff.mp (by decide)
  refine ⟨hterm, ⟨?_, fun hgreen => ?_⟩, hword, hotherWord, hmem,
    hsame _ _ (iff_of_false hword hotherWord) hmem,
    hletters, hlist _ hletters⟩
  · exact ((hhas _ _ .black hterm).mp rfl).2
  · exact absurd ((hhas _ _ .green hterm).mpr ⟨hword, hgreen⟩) (by decide)

end ColorMask

end CardCensus
