/-!
# Cutting a text into parts

`pieces` cuts at every separator, `cutAt` at the first occurrence of a needle, `replaceAll` replaces
every occurrence of a needle from left to right.

Results:
* `pieces_ne_nil`: there is always at least one piece.
* `cutAt_eq_some`: the parts around the needle are the text again.
* `length_of_cutAt`: what follows the needle is shorter than the text when the needle is not empty.
-/

namespace CardCensus.Text

/-- The parts of a text between its separators: one more than there are separators. -/
def pieces (isSeparator : Char → Bool) : List Char → List (List Char)
  | [] => [[]]
  | c :: rest =>
    if isSeparator c then [] :: pieces isSeparator rest
    else match pieces isSeparator rest with
      | [] => [[c]]
      | piece :: others => (c :: piece) :: others

theorem pieces_ne_nil (isSeparator : Char → Bool) (s : List Char) : pieces isSeparator s ≠ [] := by
  cases s with
  | nil => simp [pieces]
  | cons c rest =>
    rw [pieces]
    split
    · simp
    · split <;> simp

/-- The text before the first occurrence of `needle` and the text after it. -/
def cutAt (needle : List Char) (s : List Char) : Option (List Char × List Char) :=
  if needle.isPrefixOf s then some ([], s.drop needle.length)
  else match s with
    | [] => none
    | c :: rest => (cutAt needle rest).map fun (before, after) => (c :: before, after)

theorem cutAt_eq_some {needle s before after : List Char}
    (h : cutAt needle s = some (before, after)) :
    s = before ++ needle ++ after := by
  induction s generalizing before with
  | nil =>
    rw [cutAt] at h
    split at h
    · rename_i hp
      rw [List.isPrefixOf_iff_prefix, List.prefix_nil] at hp
      subst hp
      simpa using h
    · exact absurd h (by simp)
  | cons c rest ih =>
    rw [cutAt] at h
    split at h
    · rename_i hp
      obtain ⟨t, ht⟩ := List.isPrefixOf_iff_prefix.mp hp
      simp only [Option.some.injEq, Prod.mk.injEq] at h
      obtain ⟨rfl, rfl⟩ := h
      simp [← ht]
    · simp only [Option.map_eq_some_iff] at h
      obtain ⟨⟨b, a⟩, hcut, heq⟩ := h
      simp only [Prod.mk.injEq] at heq
      obtain ⟨rfl, rfl⟩ := heq
      rw [ih hcut]
      simp

theorem length_of_cutAt {needle s before after : List Char}
    (h : cutAt needle s = some (before, after)) :
    before.length + needle.length + after.length = s.length := by
  rw [cutAt_eq_some h]
  simp [Nat.add_assoc]

/-- The text with every occurrence of `needle`, taken from the left, replaced. An empty needle
    replaces nothing. -/
def replaceAll (needle replacement : List Char) (s : List Char) : List Char :=
  if _hn : needle = [] then s
  else match _h : cutAt needle s with
    | none => s
    | some (before, after) => before ++ replacement ++ replaceAll needle replacement after
termination_by s.length
decreasing_by
  have := length_of_cutAt _h
  have := List.length_pos_iff.mpr _hn
  omega

/-- The parts of a text before and after its first `c`. -/
def cutAtChar (c : Char) (s : List Char) : Option (List Char × List Char) :=
  cutAt [c] s

end CardCensus.Text
