import CardCensus.Proofs.Text.Case
import CardCensus.Text.Pattern
import Mathlib.Data.List.TakeWhile

/-!
# What a pattern finds

A pattern is read element by element and tried at every place of the text that a run may end at. It
finds the texts that it covers by the rules of its characters. The pattern for a needle finds the
texts that hold the needle in any case: the escapes take its wildcards literally. When the pattern
breaks off within the needle, what is left of it has to be at the end of the text.

Results:
* `matchesPattern_iff_covers`: what is found is what the rules of a pattern allow.
* `patternItems_escape`: an escaped text is read as its own characters.
* `escape_injective`: no two texts are escaped alike.
* `matchesPattern_containing`: the whole pattern asks for an infix.
* `matchesPattern_ending`: the pattern without its end asks for a suffix.
* `untilNul_containing`: where the pattern breaks off.
-/

namespace CardCensus.Text

/-! ## Reading -/

/-- A character that is no mark of a pattern stands for itself. -/
theorem patternItems_plain {c : Char} (hany : c ≠ '%') (hone : c ≠ '_') (hescape : c ≠ '\\')
    (rest : List Char) :
    patternItems (c :: rest) = (patternItems rest).map (.literal c :: ·) :=
  patternItems.eq_6 c rest hany hone (fun _ _ heq _ => hescape heq) fun heq _ => hescape heq

theorem patternItems_escapeChar (c : Char) (rest : List Char) :
    patternItems (escapeChar c ++ rest) = (patternItems rest).map (.literal c :: ·) := by
  unfold escapeChar
  split
  · rfl
  · rename_i h
    simp only [not_or] at h
    obtain ⟨hany, hone, hescape⟩ := h
    exact patternItems_plain hany hone hescape rest

/-- An escaped text is read as its own characters. -/
theorem patternItems_escape (s rest : List Char) :
    patternItems (escape s ++ rest) = (patternItems rest).map (s.map .literal ++ ·) := by
  induction s with
  | nil => simp [escape]
  | cons c s ih =>
    have hcons : escape (c :: s) ++ rest = escapeChar c ++ (escape s ++ rest) := by
      simp [escape]
    rw [hcons, patternItems_escapeChar, ih, Option.map_map]
    rfl

theorem patternItems_escape_eq (s : List Char) :
    patternItems (escape s) = some (s.map .literal) := by
  have hescape := patternItems_escape s []
  rwa [List.append_nil, patternItems, Option.map_some, List.append_nil] at hescape

/-- No two texts are escaped alike: what an escaped text is read as tells the text. -/
theorem escape_injective : Function.Injective escape := by
  intro s t h
  have hitems := congrArg patternItems h
  rw [patternItems_escape_eq, patternItems_escape_eq] at hitems
  exact List.map_injective_iff.mpr (fun _ _ => PatternItem.literal.inj) (Option.some.inj hitems)

/-! ## Matching -/

theorem anySuffix_iff {test : List Char → Bool} {s : List Char} :
    anySuffix test s = true ↔ ∃ t, t <:+ s ∧ test t = true := by
  induction s with
  | nil =>
    constructor
    · intro h
      exact ⟨[], List.suffix_rfl, h⟩
    · rintro ⟨t, ht, htest⟩
      rwa [List.suffix_nil.mp ht] at htest
  | cons c rest ih =>
    rw [anySuffix, Bool.or_eq_true, ih]
    constructor
    · rintro (h | ⟨t, ht, htest⟩)
      · exact ⟨c :: rest, List.suffix_rfl, h⟩
      · exact ⟨t, ht.trans (List.suffix_cons c rest), htest⟩
    · rintro ⟨t, ht, htest⟩
      rcases List.suffix_cons_iff.mp ht with rfl | ht
      · exact Or.inl htest
      · exact Or.inr ⟨t, ht, htest⟩

theorem matchesItems_literal_iff {c : Char} {items : List PatternItem} {s : List Char} :
    matchesItems (.literal c :: items) s = true ↔
      ∃ d rest, s = d :: rest ∧ c.toLower = d.toLower ∧ matchesItems items rest = true := by
  cases s with
  | nil => simp [matchesItems]
  | cons d rest => simp [matchesItems]

/-- The text is covered by the written pattern, from its first character to its last. -/
inductive Covers : List Char → List Char → Prop
  /-- Nothing is covered by the empty pattern. -/
  | nil : Covers [] []
  /-- A percent sign covers any run of characters. -/
  | anyRun {pattern s : List Char} (run : List Char) (h : Covers pattern s) :
    Covers ('%' :: pattern) (run ++ s)
  /-- An underscore covers any one character. -/
  | anyChar {pattern s : List Char} (d : Char) (h : Covers pattern s) :
    Covers ('_' :: pattern) (d :: s)
  /-- A character behind a backslash covers itself, in either case. -/
  | escaped {pattern s : List Char} {c d : Char} (hcase : c.toLower = d.toLower)
    (h : Covers pattern s) :
      Covers ('\\' :: c :: pattern) (d :: s)
  /-- Any other character covers itself, in either case. -/
  | plain {pattern s : List Char} {c d : Char} (hany : c ≠ '%') (hone : c ≠ '_')
    (hescape : c ≠ '\\')
      (hcase : c.toLower = d.toLower) (h : Covers pattern s) : Covers (c :: pattern) (d :: s)

theorem covers_of_matchesItems {pattern s : List Char} {items : List PatternItem}
    (hitems : patternItems pattern = some items) (h : matchesItems items s = true) :
    Covers pattern s := by
  induction pattern using patternItems.induct generalizing items s with
  | case1 =>
    obtain rfl := Option.some.inj hitems
    rw [List.isEmpty_iff.mp h]
    exact .nil
  | case2 rest ih =>
    obtain ⟨others, hothers, rfl⟩ := Option.map_eq_some_iff.mp hitems
    rw [matchesItems, anySuffix_iff] at h
    obtain ⟨t, ⟨run, rfl⟩, ht⟩ := h
    exact .anyRun run (ih hothers ht)
  | case3 rest ih =>
    obtain ⟨others, hothers, rfl⟩ := Option.map_eq_some_iff.mp hitems
    cases s with
    | nil => cases h
    | cons d s => exact .anyChar d (ih hothers h)
  | case4 c rest ih =>
    obtain ⟨others, hothers, rfl⟩ := Option.map_eq_some_iff.mp hitems
    obtain ⟨d, t, rfl, hcase, ht⟩ := matchesItems_literal_iff.mp h
    exact .escaped hcase (ih hothers ht)
  | case5 => cases hitems
  | case6 c rest hany hone hescape hlast ih =>
    have hplain : c ≠ '\\' := by
      rintro rfl
      cases rest with
      | nil => exact hlast rfl rfl
      | cons d rest => exact hescape d rest rfl rfl
    rw [patternItems_plain hany hone hplain] at hitems
    obtain ⟨others, hothers, rfl⟩ := Option.map_eq_some_iff.mp hitems
    obtain ⟨d, t, rfl, hcase, ht⟩ := matchesItems_literal_iff.mp h
    exact .plain hany hone hplain hcase (ih hothers ht)

theorem matchesItems_of_covers {pattern s : List Char} (h : Covers pattern s) :
    ∃ items, patternItems pattern = some items ∧ matchesItems items s = true := by
  induction h with
  | nil => exact ⟨[], rfl, rfl⟩
  | anyRun run _ ih =>
    obtain ⟨items, hitems, hmatches⟩ := ih
    refine ⟨.anyRun :: items, by rw [patternItems, hitems, Option.map_some], ?_⟩
    rw [matchesItems, anySuffix_iff]
    exact ⟨_, List.suffix_append run _, hmatches⟩
  | anyChar d _ ih =>
    obtain ⟨items, hitems, hmatches⟩ := ih
    exact ⟨.anyChar :: items, by rw [patternItems, hitems, Option.map_some], hmatches⟩
  | @escaped _ _ c _ hcase _ ih =>
    obtain ⟨items, hitems, hmatches⟩ := ih
    exact ⟨.literal c :: items, by rw [patternItems, hitems, Option.map_some],
      matchesItems_literal_iff.mpr ⟨_, _, rfl, hcase, hmatches⟩⟩
  | @plain _ _ c _ hany hone hescape hcase _ ih =>
    obtain ⟨items, hitems, hmatches⟩ := ih
    exact ⟨.literal c :: items, by
      rw [patternItems_plain hany hone hescape, hitems, Option.map_some],
      matchesItems_literal_iff.mpr ⟨_, _, rfl, hcase, hmatches⟩⟩

/-- The matcher finds the texts that the pattern covers. -/
theorem matchesPattern_iff_covers {pattern s : List Char} : matchesPattern pattern s = true ↔
    Covers pattern s := by
  rw [matchesPattern]
  constructor
  · intro h
    split at h
    · cases h
    · rename_i items hitems
      exact covers_of_matchesItems hitems h
  · intro h
    obtain ⟨items, hitems, hmatches⟩ := matchesItems_of_covers h
    rw [hitems]
    exact hmatches

/-! ## Literal texts -/

/-- Characters that stand for themselves cover a beginning of the text, in any case. -/
theorem matchesItems_literals (s t : List Char) (items : List PatternItem) :
    matchesItems (s.map .literal ++ items) t = true ↔
      ∃ u v, t = u ++ v ∧ fold u = fold s ∧ matchesItems items v = true := by
  induction s generalizing t with
  | nil =>
    constructor
    · intro h
      exact ⟨[], t, rfl, rfl, h⟩
    · rintro ⟨u, v, rfl, hu, h⟩
      rw [List.map_eq_nil_iff.mp hu]
      exact h
  | cons c s ih =>
    cases t with
    | nil =>
      rw [List.map_cons, List.cons_append, matchesItems]
      constructor
      · intro h
        cases h
      · rintro ⟨u, v, huv, hu, -⟩
        rw [(List.append_eq_nil_iff.mp huv.symm).1] at hu
        cases hu
    | cons d t =>
      rw [List.map_cons, List.cons_append, matchesItems, Bool.and_eq_true, beq_iff_eq, ih]
      constructor
      · rintro ⟨hcd, u, v, rfl, hu, h⟩
        refine ⟨d :: u, v, rfl, ?_, h⟩
        rw [fold, List.map_cons, ← hcd]
        exact congrArg (c.toLower :: ·) hu
      · rintro ⟨u, v, huv, hu, h⟩
        cases u with
        | nil => cases hu
        | cons e u =>
          obtain ⟨rfl, rfl⟩ := List.cons.inj huv
          obtain ⟨hde, hu⟩ := List.cons.inj hu
          exact ⟨hde.symm, u, v, rfl, hu, h⟩

theorem matchesItems_anyRun (s : List Char) : matchesItems [.anyRun] s = true := by
  rw [matchesItems, anySuffix_iff]
  exact ⟨[], List.nil_suffix, rfl⟩

/-- The pattern for a needle finds the texts that hold the needle in any case. -/
theorem matchesPattern_containing {needle s : List Char} :
    matchesPattern (containing needle) s = true ↔ fold needle <:+: fold s := by
  have hitems :
      patternItems (containing needle) = some (.anyRun :: (needle.map .literal ++ [.anyRun])) := by
    show (patternItems (escape needle ++ ['%'])).map (.anyRun :: ·) = _
    rw [patternItems_escape]
    rfl
  rw [matchesPattern, hitems]
  show anySuffix (matchesItems (needle.map .literal ++ [.anyRun])) s = true ↔ _
  rw [anySuffix_iff]
  constructor
  · rintro ⟨t, ⟨front, rfl⟩, ht⟩
    obtain ⟨u, v, rfl, hu, -⟩ := (matchesItems_literals _ _ _).mp ht
    refine ⟨fold front, fold v, ?_⟩
    rw [fold_append, fold_append, hu, List.append_assoc]
  · rintro ⟨front, back, h⟩
    obtain ⟨s', v, rfl, hs', -⟩ := List.map_eq_append_iff.mp h.symm
    obtain ⟨p, u, rfl, -, hu⟩ := List.map_eq_append_iff.mp hs'
    refine ⟨u ++ v, ⟨p, (List.append_assoc p u v).symm⟩, ?_⟩
    exact (matchesItems_literals _ _ _).mpr ⟨u, v, rfl, hu, matchesItems_anyRun v⟩

/-- Without its end, the pattern finds the texts that the needle is at the end of. -/
theorem matchesPattern_ending {needle s : List Char} :
    matchesPattern ('%' :: escape needle) s = true ↔ fold needle <:+ fold s := by
  have hitems : patternItems ('%' :: escape needle) = some (.anyRun :: needle.map .literal) := by
    show (patternItems (escape needle)).map (.anyRun :: ·) = _
    rw [← List.append_nil (escape needle), patternItems_escape, patternItems]
    simp
  rw [matchesPattern, hitems]
  show anySuffix (matchesItems (needle.map .literal)) s = true ↔ _
  rw [anySuffix_iff, ← List.append_nil (needle.map _)]
  constructor
  · rintro ⟨t, ⟨front, rfl⟩, ht⟩
    obtain ⟨u, v, rfl, hu, hv⟩ := (matchesItems_literals _ _ _).mp ht
    rw [List.isEmpty_iff.mp hv, List.append_nil, fold_append, hu]
    exact List.suffix_append _ _
  · rintro ⟨front, h⟩
    obtain ⟨p, u, rfl, -, hu⟩ := List.map_eq_append_iff.mp h.symm
    refine ⟨u, List.suffix_append p u, ?_⟩
    exact (matchesItems_literals _ _ _).mpr ⟨u, [], (List.append_nil u).symm, hu, rfl⟩

/-! ## Where a pattern breaks off -/

theorem untilNul_append_of_mem {s : List Char} (h : '\x00' ∈ s) (rest : List Char) :
    untilNul (s ++ rest) = untilNul s := by
  induction s with
  | nil => cases h
  | cons c s ih =>
    by_cases hc : c = '\x00'
    · subst hc
      rfl
    · have hs : '\x00' ∈ s := (List.mem_cons.mp h).resolve_left (Ne.symm hc)
      have hstep : ∀ t : List Char, untilNul (c :: t) = c :: untilNul t := fun t =>
        List.takeWhile_cons_of_pos (bne_iff_ne.mpr hc)
      rw [List.cons_append, hstep, hstep, ih hs]

theorem untilNul_append_of_notMem {s : List Char} (h : '\x00' ∉ s) (rest : List Char) :
    untilNul (s ++ rest) = s ++ untilNul rest := by
  apply List.takeWhile_append_of_pos
  intro c hc
  rw [bne_iff_ne]
  rintro rfl
  exact h hc

theorem untilNul_eq_self {s : List Char} (h : '\x00' ∉ s) : untilNul s = s := by
  rw [← List.append_nil s, untilNul_append_of_notMem h]
  rfl

theorem untilNul_escape (needle rest : List Char) : untilNul (escape needle ++ rest) =
    if '\x00' ∈ needle then escape (untilNul needle) else escape needle ++ untilNul rest := by
  induction needle with
  | nil => rfl
  | cons c s ih =>
    by_cases hnul : c = '\x00'
    · subst hnul
      rw [if_pos List.mem_cons_self]
      rfl
    · have hchar : '\x00' ∉ escapeChar c := by
        unfold escapeChar
        split
        · simpa using Ne.symm hnul
        · exact fun h => hnul (List.mem_singleton.mp h).symm
      have hescape : ∀ t, escape (c :: t) = escapeChar c ++ escape t := fun t => by simp [escape]
      have huntil : untilNul (c :: s) = c :: untilNul s := by
        rw [untilNul, List.takeWhile_cons_of_pos (by simpa using hnul)]
        rfl
      have hmem : '\x00' ∈ c :: s ↔ '\x00' ∈ s := by
        rw [List.mem_cons]
        exact or_iff_right fun h => hnul h.symm
      have hstep : untilNul (escape (c :: s) ++ rest) =
          escapeChar c ++ untilNul (escape s ++ rest) := by
        rw [hescape, List.append_assoc, untilNul_append_of_notMem hchar]
      rw [hstep, ih, huntil]
      simp only [hmem, hescape]
      split
      · rfl
      · rw [List.append_assoc]

/-- The pattern of a needle breaks off within the needle or not at all. -/
theorem untilNul_containing (needle : List Char) : untilNul (containing needle) =
    if '\x00' ∈ needle then '%' :: escape (untilNul needle) else containing needle := by
  have hhead : untilNul (containing needle) = '%' :: untilNul (escape needle ++ ['%']) := rfl
  rw [hhead, untilNul_escape]
  split <;> rfl

end CardCensus.Text
