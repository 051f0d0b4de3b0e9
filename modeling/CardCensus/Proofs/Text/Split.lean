import CardCensus.Text.Blank
import CardCensus.Text.Split

/-!
# Cutting and trimming

The pieces of a text hold no separator, and pieces without separators are found again in the text
that they make up. Trimming takes nothing more away the second time.

Results:
* `pieces_append_cons`, `pieces_eq_singleton`, `pieces_append`: the pieces of a text that was put
  together.
* `cutAtChar_append_cons`, `notMem_of_cutAtChar`: a text is cut where a mark stands for the first
  time.
* `trim_trim`: trimming twice is trimming once.
-/

namespace CardCensus.Text

/-! ## Pieces -/

section Pieces

variable {isSeparator : Char → Bool} {piece rest s : List Char}

theorem pieces_eq_singleton (h : ∀ c ∈ piece, isSeparator c = false) :
    pieces isSeparator piece = [piece] := by
  induction piece with
  | nil => rfl
  | cons c piece ih =>
    rw [List.forall_mem_cons] at h
    rw [pieces, if_neg (Bool.eq_false_iff.mp h.1), ih h.2]

theorem pieces_append_cons (h : ∀ c ∈ piece, isSeparator c = false) {separator : Char}
    (hseparator : isSeparator separator = true) :
    pieces isSeparator (piece ++ separator :: rest) = piece :: pieces isSeparator rest := by
  induction piece with
  | nil => rw [List.nil_append, pieces, if_pos hseparator]
  | cons c piece ih =>
    rw [List.forall_mem_cons] at h
    rw [List.cons_append, pieces, if_neg (Bool.eq_false_iff.mp h.1), ih h.2]

/-- A separator parts the pieces before it from those behind it. -/
theorem pieces_append {separator : Char} (hseparator : isSeparator separator = true)
    (s rest : List Char) :
    pieces isSeparator (s ++ separator :: rest) = pieces isSeparator s ++
      pieces isSeparator rest := by
  induction s with
  | nil => simp [pieces, hseparator]
  | cons c s ih =>
    by_cases hc : isSeparator c = true
    · simp [pieces, hc, ih]
    · obtain ⟨first, others, hpieces⟩ := List.exists_cons_of_ne_nil (pieces_ne_nil isSeparator s)
      simp [pieces, hc, ih, hpieces]

/-- A piece consists of characters of the text that are no separators. -/
theorem mem_of_mem_pieces (hpiece : piece ∈ pieces isSeparator s) {c : Char} (hc : c ∈ piece) :
    c ∈ s ∧ isSeparator c = false := by
  induction s generalizing piece with
  | nil =>
    rw [pieces, List.mem_singleton] at hpiece
    subst hpiece
    cases hc
  | cons d s ih =>
    have hlater : ∀ {other : List Char}, other ∈ pieces isSeparator s → c ∈ other →
        c ∈ d :: s ∧ isSeparator c = false := fun hother hmem =>
      ⟨List.mem_cons_of_mem _ (ih hother hmem).1, (ih hother hmem).2⟩
    cases hd : isSeparator d with
    | true =>
      rw [pieces, if_pos hd, List.mem_cons] at hpiece
      rcases hpiece with rfl | hpiece
      · cases hc
      · exact hlater hpiece hc
    | false =>
      rw [pieces, if_neg (Bool.eq_false_iff.mp hd)] at hpiece
      split at hpiece
      · rw [List.mem_singleton] at hpiece
        subst hpiece
        rw [List.mem_singleton.mp hc]
        exact ⟨List.mem_cons_self, hd⟩
      · rename_i first others hpieces
        rw [hpieces] at hlater
        rcases List.mem_cons.mp hpiece with rfl | hpiece
        · rcases List.mem_cons.mp hc with rfl | hc
          · exact ⟨List.mem_cons_self, hd⟩
          · exact hlater List.mem_cons_self hc
        · exact hlater (List.mem_cons_of_mem _ hpiece) hc

/-- A character that is no separator stands in one of the pieces. -/
theorem exists_mem_pieces {c : Char} (hc : c ∈ s) (hplain : isSeparator c = false) :
    ∃ piece ∈ pieces isSeparator s, c ∈ piece := by
  induction s with
  | nil => cases hc
  | cons d s ih =>
    cases hd : isSeparator d with
    | true =>
      rcases List.mem_cons.mp hc with rfl | hc
      · rw [hd] at hplain
        cases hplain
      · obtain ⟨piece, hpiece, hmem⟩ := ih hc
        rw [pieces, if_pos hd]
        exact ⟨piece, List.mem_cons_of_mem _ hpiece, hmem⟩
    | false =>
      rw [pieces, if_neg (Bool.eq_false_iff.mp hd)]
      split
      · rename_i hnone
        exact absurd hnone (pieces_ne_nil isSeparator s)
      · rename_i first others hpieces
        rw [hpieces] at ih
        rcases List.mem_cons.mp hc with rfl | hc
        · exact ⟨_, List.mem_cons_self, List.mem_cons_self⟩
        · obtain ⟨piece, hpiece, hmem⟩ := ih hc
          rcases List.mem_cons.mp hpiece with rfl | hpiece
          · exact ⟨_, List.mem_cons_self, List.mem_cons_of_mem _ hmem⟩
          · exact ⟨piece, List.mem_cons_of_mem _ hpiece, hmem⟩

end Pieces

/-! ## Cutting at a mark -/

theorem cutAtChar_append_cons {mark : Char} {before after : List Char} (h : mark ∉ before) :
    cutAtChar mark (before ++ mark :: after) = some (before, after) := by
  induction before with
  | nil =>
    rw [List.nil_append, cutAtChar, cutAt]
    simp
  | cons c before ih =>
    rw [List.mem_cons, not_or] at h
    have hprefix : ¬ ([mark].isPrefixOf (c :: (before ++ mark :: after))) = true := by
      simpa using h.1
    rw [List.cons_append, cutAtChar, cutAt, if_neg hprefix]
    show (cutAtChar mark (before ++ mark :: after)).map _ = _
    rw [ih h.2]
    rfl

theorem cutAtChar_eq_some {mark : Char} {s before after : List Char}
    (h : cutAtChar mark s = some (before, after)) :
    s = before ++ mark :: after := by
  rw [cutAt_eq_some h, List.append_assoc]
  rfl

/-- A text without the mark is not cut. -/
theorem cutAtChar_eq_none {mark : Char} {s : List Char} (h : mark ∉ s) :
    cutAtChar mark s = none := by
  cases hcut : cutAtChar mark s with
  | none => rfl
  | some parts =>
    rw [cutAtChar_eq_some hcut] at h
    exact absurd (List.mem_append_right _ List.mem_cons_self) h

/-- A text is cut at the first mark. -/
theorem notMem_of_cutAtChar {mark : Char} {s before after : List Char}
    (h : cutAtChar mark s = some (before, after)) : mark ∉ before := by
  induction s generalizing before with
  | nil => cases h
  | cons c rest ih =>
    rw [cutAtChar, cutAt] at h
    split at h
    · obtain ⟨rfl, -⟩ := Prod.mk.inj (Option.some.inj h)
      exact List.not_mem_nil
    · rename_i hprefix
      obtain ⟨⟨head, tail⟩, hcut, heq⟩ := Option.map_eq_some_iff.mp h
      obtain ⟨rfl, rfl⟩ := Prod.mk.inj heq
      have hfirst : mark ≠ c := by simpa using hprefix
      rw [List.mem_cons, not_or]
      exact ⟨hfirst, ih hcut⟩

/-- What stands around the first mark of a text is determined by the text. -/
theorem eq_of_append_cons_eq {mark : Char} {before after before' after' : List Char}
    (heq : before ++ mark :: after = before' ++ mark :: after') (h : mark ∉ before)
    (h' : mark ∉ before') :
    before = before' ∧ after = after' := by
  have hcut : cutAtChar mark (before ++ mark :: after) = some (before, after) :=
    cutAtChar_append_cons h
  rw [heq, cutAtChar_append_cons h'] at hcut
  obtain ⟨rfl, rfl⟩ := Prod.mk.inj (Option.some.inj hcut)
  exact ⟨rfl, rfl⟩

/-! ## Trimming -/

theorem trimStart_eq_self {s : List Char} (h : ∀ c rest, s = c :: rest → isBlank c = false) :
    trimStart s = s := by
  cases s with
  | nil => rfl
  | cons c rest => exact List.dropWhile_cons_of_neg (Bool.eq_false_iff.mp (h c rest rfl))

theorem trimEnd_prefix_self (s : List Char) : trimEnd s <+: s := by
  rw [← List.reverse_suffix, trimEnd, List.reverse_reverse]
  exact List.dropWhile_suffix _

theorem trimStart_trimStart (s : List Char) : trimStart (trimStart s) = trimStart s :=
  trimStart_eq_self fun _ _ h => isBlank_of_trimStart_eq_cons h

theorem trimEnd_trimEnd (s : List Char) : trimEnd (trimEnd s) = trimEnd s := by
  rw [trimEnd, trimEnd, List.reverse_reverse]
  exact congrArg List.reverse (trimStart_trimStart s.reverse)

/-- A text without blanks has nothing to trim. -/
theorem trim_eq_self {s : List Char} (h : ∀ c ∈ s, isBlank c = false) : trim s = s := by
  have hstart : ∀ t : List Char, (∀ c ∈ t, isBlank c = false) → trimStart t = t := by
    intro t ht
    apply trimStart_eq_self
    rintro c rest rfl
    exact ht c List.mem_cons_self
  have hend : trimStart s.reverse = s.reverse := hstart _ fun c hc => h c (List.mem_reverse.mp hc)
  rw [trimStart] at hend
  rw [trim, hstart s h, trimEnd, hend, List.reverse_reverse]

/-- What trimming leaves does not begin with a blank either. -/
theorem trimStart_trim (s : List Char) : trimStart (trim s) = trim s := by
  apply trimStart_eq_self
  intro c rest h
  obtain ⟨dropped, hdropped⟩ := trimEnd_prefix_self (trimStart s)
  rw [← trim, h, List.cons_append] at hdropped
  exact isBlank_of_trimStart_eq_cons hdropped.symm

theorem trim_trim (s : List Char) : trim (trim s) = trim s := by
  rw [trim, trimStart_trim, trim, trimEnd_trimEnd]

theorem mem_of_mem_trim {s : List Char} {c : Char} (h : c ∈ trim s) : c ∈ s :=
  (List.dropWhile_sublist isBlank).subset ((trimEnd_prefix_self (trimStart s)).subset h)

end CardCensus.Text
