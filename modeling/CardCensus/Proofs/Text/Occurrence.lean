import CardCensus.Text.Split
import Mathlib.Data.List.Infix

/-!
# Where a needle stands first

A text is cut at the first occurrence of a needle, wherever the text comes from. When two texts are
put together and no occurrence lies across the seam, the first occurrence is that of the first text,
or else that of the second.

Results:
* `cutAt_eq_some_iff`, `cutAt_eq_none_iff`: a text is cut where the needle stands first, and not at
  all if it does not stand there.
* `IsFirst.unique`: a text has one first occurrence.
* `cutAt_append_of_some`, `cutAt_append_of_none`: the cut of two texts that are put together.
* `isApart_of_head`, `isApart_of_last`: two ways to see that there is none.
-/

namespace CardCensus.Text

variable {needle before after s a b : List Char}

/-! ## First occurrences -/

theorem cutAt_start (h : needle <+: s) : cutAt needle s = some ([], s.drop needle.length) := by
  rw [cutAt.eq_def, if_pos (List.isPrefixOf_iff_prefix.mpr h)]

theorem cutAt_cons {c : Char} (h : ¬ needle <+: c :: s) :
    cutAt needle (c :: s) = (cutAt needle s).map fun (before, after) => (c :: before, after) := by
  rw [← List.isPrefixOf_iff_prefix] at h
  rw [cutAt, if_neg h]

/-- In `before ++ needle ++ after`, the needle does not stand anywhere in front of where it stands
    behind `before`. -/
def IsFirst (needle before after : List Char) : Prop :=
  ∀ head tail, before ++ needle ++ after = head ++ needle ++ tail → before.length ≤ head.length

theorem isFirst_of_cutAt (h : cutAt needle s = some (before, after)) :
    IsFirst needle before after := by
  induction s generalizing before with
  | nil =>
    have hlength := length_of_cutAt h
    simp only [List.length_nil] at hlength
    intro head tail _
    omega
  | cons c rest ih =>
    rw [cutAt] at h
    split at h
    · obtain ⟨rfl, -⟩ := Prod.mk.inj (Option.some.inj h)
      intro head tail _
      exact Nat.zero_le _
    · rename_i hstarts
      obtain ⟨⟨front, back⟩, hcut, heq⟩ := Option.map_eq_some_iff.mp h
      obtain ⟨rfl, rfl⟩ := Prod.mk.inj heq
      intro head tail hsplit
      cases head with
      | nil =>
        rw [cutAt_eq_some hcut, List.isPrefixOf_iff_prefix] at hstarts
        exact absurd ⟨tail, hsplit.symm⟩ hstarts
      | cons d head =>
        simp only [List.cons_append, List.cons.injEq] at hsplit
        exact Nat.succ_le_succ (ih hcut head tail hsplit.2)

theorem cutAt_isInfix (h : cutAt needle s = some (before, after)) : needle <:+: s :=
  ⟨before, after, (cutAt_eq_some h).symm⟩

/-- A text is not cut exactly when the needle stands nowhere in it. -/
theorem cutAt_eq_none_iff : cutAt needle s = none ↔ ¬ needle <:+: s := by
  induction s with
  | nil =>
    rw [cutAt, List.infix_nil]
    cases needle <;> simp
  | cons c rest ih =>
    rw [cutAt, List.infix_cons_iff, not_or, ← ih, ← List.isPrefixOf_iff_prefix]
    cases needle.isPrefixOf (c :: rest) <;> simp

/-- A text is cut where the needle stands first. -/
theorem cutAt_eq_some_iff :
    cutAt needle s = some (before, after) ↔ s = before ++ needle ++ after ∧
      IsFirst needle before after := by
  constructor
  · intro h
    exact ⟨cutAt_eq_some h, isFirst_of_cutAt h⟩
  · rintro ⟨rfl, hfirst⟩
    match hcut : cutAt needle (before ++ needle ++ after) with
    | none => exact absurd ⟨before, after, rfl⟩ (cutAt_eq_none_iff.mp hcut)
    | some (front, back) =>
      -- both places come first, so they are the same
      have hsplit := cutAt_eq_some hcut
      have hlength : before.length = front.length :=
        Nat.le_antisymm (hfirst front back hsplit) (isFirst_of_cutAt hcut before after hsplit.symm)
      rw [List.append_assoc, List.append_assoc] at hsplit
      obtain ⟨rfl, hrest⟩ := List.append_inj hsplit hlength
      rw [List.append_cancel_left hrest]

/-- A text has one first occurrence. -/
theorem IsFirst.unique {before' after' : List Char} (h : IsFirst needle before after)
    (h' : IsFirst needle before' after')
    (heq : before ++ needle ++ after = before' ++ needle ++ after') :
    before = before' ∧ after = after' := by
  have hcut : cutAt needle (before ++ needle ++ after) = some (before, after) :=
    cutAt_eq_some_iff.mpr ⟨rfl, h⟩
  rw [cutAt_eq_some_iff.mpr ⟨heq, h'⟩] at hcut
  obtain ⟨rfl, rfl⟩ := Prod.mk.inj (Option.some.inj hcut)
  exact ⟨rfl, rfl⟩

/-! ## Texts that are put together -/

/-- No occurrence of the needle lies across the seam between the texts: where a part of the needle
    ends the first text, the second does not go on with the rest. -/
def IsApart (needle a b : List Char) : Prop :=
  ∀ left right, needle = left ++ right → left ≠ [] → right ≠ [] → left <:+ a → ¬ right <+: b

/-- The second text does not start with a character from the inside of the needle. -/
theorem isApart_of_head (h : ∀ c ∈ b.head?, c ∉ needle.tail) : IsApart needle a b := by
  rintro left right rfl hleft hright - hstarts
  obtain ⟨c, right, rfl⟩ := List.exists_cons_of_ne_nil hright
  obtain ⟨d, left, rfl⟩ := List.exists_cons_of_ne_nil hleft
  obtain ⟨rest, rfl⟩ := hstarts
  exact h c rfl (List.mem_append_right left List.mem_cons_self)

/-- The first text does not end with a character from the inside of the needle. -/
theorem isApart_of_last (h : ∀ c ∈ a.getLast?, c ∉ needle.dropLast) : IsApart needle a b := by
  rintro left right rfl hleft hright hsuffix -
  obtain ⟨front, rfl⟩ := hsuffix
  rw [List.dropLast_append_of_ne_nil hright, List.getLast?_append_of_ne_nil front hleft] at h
  exact h _ (List.getLast?_eq_some_getLast hleft) (List.mem_append_left _ (List.getLast_mem hleft))

/-- An occurrence in the first text is not changed by what follows. -/
theorem cutAt_append_of_some (h : cutAt needle a = some (before, after)) (b : List Char) :
    cutAt needle (a ++ b) = some (before, after ++ b) := by
  induction a generalizing before with
  | nil =>
    rw [cutAt] at h
    split at h
    · rename_i hstarts
      obtain ⟨rfl, rfl⟩ := Prod.mk.inj (Option.some.inj h)
      rw [List.isPrefixOf_iff_prefix, List.prefix_nil] at hstarts
      subst hstarts
      exact cutAt_start (List.nil_prefix)
    · cases h
  | cons c a ih =>
    by_cases hstarts : needle <+: c :: a
    · rw [cutAt_start hstarts] at h
      obtain ⟨rfl, rfl⟩ := Prod.mk.inj (Option.some.inj h)
      rw [cutAt_start (hstarts.trans (List.prefix_append (c :: a) b)),
        List.drop_append_of_le_length hstarts.length_le]
    · -- the needle fits into the first text, so it would start that text too
      have hwhole : ¬ needle <+: c :: (a ++ b) := fun hp =>
        hstarts (List.prefix_of_prefix_length_le hp (List.prefix_append (c :: a) b)
          (cutAt_isInfix h).length_le)
      rw [cutAt_cons hstarts] at h
      obtain ⟨⟨front, back⟩, hcut, heq⟩ := Option.map_eq_some_iff.mp h
      obtain ⟨rfl, rfl⟩ := Prod.mk.inj heq
      rw [List.cons_append, cutAt_cons hwhole, ih hcut]
      rfl

theorem IsFirst.append (h : IsFirst needle before after) (b : List Char) :
    IsFirst needle before (after ++ b) :=
  isFirst_of_cutAt (cutAt_append_of_some (cutAt_eq_some_iff.mpr ⟨rfl, h⟩) b)

/-- Without an occurrence in the first text, nor across the seam, two texts are cut in
    the second. -/
theorem cutAt_append_of_none (h : cutAt needle a = none) (hapart : IsApart needle a b) :
    cutAt needle (a ++ b) = (cutAt needle b).map fun (before, after) => (a ++ before, after) := by
  induction a with
  | nil => exact Option.map_id'.symm
  | cons c a ih =>
    have hrest : IsApart needle a b := fun left right heq hleft hright hsuffix =>
      hapart left right heq hleft hright (hsuffix.trans (List.suffix_cons c a))
    have hstarts : ¬ needle <+: c :: a := fun hp => cutAt_eq_none_iff.mp h hp.isInfix
    -- an occurrence at the start of the whole would lie across the seam
    have hwhole : ¬ needle <+: c :: (a ++ b) := by
      rintro ⟨tail, htail⟩
      rw [← List.cons_append, List.append_eq_append_iff] at htail
      rcases htail with ⟨right, hright, -⟩ | ⟨right, hright, hb⟩
      · exact hstarts ⟨right, hright.symm⟩
      · have hne : right ≠ [] := by
          rintro rfl
          exact hstarts ⟨[], by rw [hright, List.append_nil, List.append_nil]⟩
        exact hapart (c :: a) right hright (List.cons_ne_nil c a) hne (List.suffix_refl _)
          ⟨tail, hb.symm⟩
    rw [cutAt_cons hstarts, Option.map_eq_none_iff] at h
    rw [List.cons_append, cutAt_cons hwhole, ih h hrest, Option.map_map]
    rfl

theorem IsFirst.prepend (h : IsFirst needle before after) (hnone : ¬ needle <:+: a)
    (hapart : IsApart needle a (before ++ needle ++ after)) :
    IsFirst needle (a ++ before) after := by
  have hcut := cutAt_append_of_none (cutAt_eq_none_iff.mpr hnone) hapart
  rw [cutAt_eq_some_iff.mpr ⟨rfl, h⟩] at hcut
  exact isFirst_of_cutAt hcut

/-- A needle behind a text that does not hold it is found where it was put, unless one lies across
    the seam. -/
theorem cutAt_append_needle (h : ¬ needle <:+: a) (hapart : IsApart needle a (needle ++ b)) :
    cutAt needle (a ++ (needle ++ b)) = some (a, b) := by
  rw [cutAt_append_of_none (cutAt_eq_none_iff.mpr h) hapart,
    cutAt_start (List.prefix_append needle b)]
  simp

end CardCensus.Text
