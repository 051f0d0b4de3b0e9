/-!
# The first of a list in some order

`least?` goes through a list and keeps the item that comes first so far; of items that no order
parts, the earlier in the list stays.

Results:
* `exists_least?`: a list with an item has a first one, which no item comes before.
* `exists_least?_of_forall`: the order need be an order of the items of the list only.
* `mem_of_least?`: what comes first is an item of the list.
* `least?_append`: items that do not come before it change nothing.
* `least?_map`: what comes first does not depend on parts of the items that the order does not look
  at.
-/

namespace CardCensus

variable {α : Type} {before : α → α → Bool}

/-- The first item so far, when one more is looked at. -/
def earlier (before : α → α → Bool) (best : Option α) (item : α) : Option α :=
  match best with
  | none => some item
  | some other => if before item other then some item else some other

/-- The item that comes first in the order. -/
def least? (before : α → α → Bool) (items : List α) : Option α :=
  items.foldl (earlier before) none

theorem mem_of_least? {items : List α} {best : α} (h : least? before items = some best) :
    best ∈ items := by
  have hrun : ∀ (items : List α) (first : Option α), items.foldl (earlier before) first =
    some best →
      first = some best ∨ best ∈ items := by
    intro items
    induction items with
    | nil => exact fun _ hfirst => Or.inl hfirst
    | cons item rest ih =>
      intro first hfound
      rcases ih _ hfound with hstep | hrest
      · unfold earlier at hstep
        split at hstep
        · exact Or.inr (Option.some.inj hstep ▸ List.mem_cons_self)
        · split at hstep
          · exact Or.inr (Option.some.inj hstep ▸ List.mem_cons_self)
          · exact Or.inl hstep
      · exact Or.inr (List.mem_cons_of_mem _ hrest)
  exact (hrun items none h).resolve_left (fun hnone => nomatch hnone)

/-- From some item on, the search ends with that item or with one that comes before it. -/
theorem foldl_earlier (htrans : ∀ a b c, before a b → before b c → before a c)
    (hirrefl : ∀ a, ¬ before a a) (items : List α) (first : α) :
    ∃ best, items.foldl (earlier before) (some first) = some best ∧
      (best = first ∨ best ∈ items ∧ before best first) ∧ ∀ item ∈ items, ¬ before item best := by
  induction items generalizing first with
  | nil => exact ⟨first, rfl, Or.inl rfl, fun _ h => nomatch h⟩
  | cons item rest ih =>
    rw [List.foldl_cons]
    by_cases hbefore : before item first
    · obtain ⟨best, hbest, hfound, hleast⟩ := ih item
      refine ⟨best, ?_, ?_, ?_⟩
      · rw [earlier, if_pos hbefore, hbest]
      · rcases hfound with rfl | ⟨hmem, hlt⟩
        · exact Or.inr ⟨List.mem_cons_self, hbefore⟩
        · exact Or.inr ⟨List.mem_cons_of_mem _ hmem, htrans _ _ _ hlt hbefore⟩
      · rw [List.forall_mem_cons]
        refine ⟨?_, hleast⟩
        rcases hfound with rfl | ⟨-, hlt⟩
        · exact hirrefl _
        · exact fun h => hirrefl _ (htrans _ _ _ h hlt)
    · obtain ⟨best, hbest, hfound, hleast⟩ := ih first
      refine ⟨best, ?_, ?_, ?_⟩
      · rw [earlier, if_neg hbefore, hbest]
      · exact hfound.imp_right fun h => ⟨List.mem_cons_of_mem _ h.1, h.2⟩
      · rw [List.forall_mem_cons]
        refine ⟨?_, hleast⟩
        rcases hfound with rfl | ⟨-, hlt⟩
        · exact hbefore
        · exact fun h => hbefore (htrans _ _ _ h hlt)

theorem exists_least? (htrans : ∀ a b c, before a b → before b c → before a c)
    (hirrefl : ∀ a, ¬ before a a) {items : List α} (h : items ≠ []) :
    ∃ best ∈ items, least? before items = some best ∧ ∀ item ∈ items, ¬ before item best := by
  cases items with
  | nil => exact absurd rfl h
  | cons first rest =>
    obtain ⟨best, hbest, hfound, hleast⟩ := foldl_earlier htrans hirrefl rest first
    refine ⟨best, ?_, hbest, ?_⟩
    · rcases hfound with rfl | ⟨hmem, -⟩
      · exact List.mem_cons_self
      · exact List.mem_cons_of_mem _ hmem
    · rw [List.forall_mem_cons]
      refine ⟨?_, hleast⟩
      rcases hfound with rfl | ⟨-, hlt⟩
      · exact hirrefl _
      · exact fun h => hirrefl _ (htrans _ _ _ h hlt)

theorem least?_append {items more : List α} {best : α} (h : least? before items = some best)
    (hlate : ∀ item ∈ more, ¬ before item best) : least? before (items ++ more) = some best := by
  rw [least?] at h
  rw [least?, List.foldl_append, h]
  induction more with
  | nil => rfl
  | cons item rest ih =>
    rw [List.forall_mem_cons] at hlate
    rw [List.foldl_cons, earlier, if_neg hlate.1]
    exact ih hlate.2

theorem least?_eq_head? {items : List α} (h : items.Pairwise fun a b => ¬ before b a) :
    least? before items = items.head? := by
  cases items with
  | nil => rfl
  | cons first rest =>
    rw [List.pairwise_cons] at h
    have hfirst : least? before [first] = some first := rfl
    exact least?_append hfirst h.1

theorem least?_map {β : Type} {precedes : β → β → Bool} {f : α → β}
    (h : ∀ a b, precedes (f a) (f b) = before a b) (items : List α) :
    least? precedes (items.map f) = (least? before items).map f := by
  have hstep : ∀ (items : List α) (best : Option α),
      (items.map f).foldl (earlier precedes) (best.map f) =
        (items.foldl (earlier before) best).map f := by
    intro items
    induction items with
    | nil => exact fun _ => rfl
    | cons item rest ih =>
      intro best
      have hearlier : earlier precedes (best.map f) (f item) =
          (earlier before best item).map f := by
        cases best with
        | none => rfl
        | some other =>
          simp only [Option.map_some, earlier, h]
          split <;> rfl
      rw [List.map_cons, List.foldl_cons, List.foldl_cons, hearlier, ih]
  exact hstep items none

/-- It is enough that the order is one of items with a property that all items of the list have. -/
theorem exists_least?_of_forall {P : α → Prop}
    (htrans : ∀ a b c, P a → P b → P c → before a b → before b c → before a c)
    (hirrefl : ∀ a, P a → ¬ before a a) {items : List α} (hP : ∀ item ∈ items, P item)
    (h : items ≠ []) :
    ∃ best ∈ items, least? before items = some best ∧ ∀ item ∈ items, ¬ before item best := by
  let narrowed := items.attachWith P hP
  have hitems : narrowed.map Subtype.val = items := List.attachWith_map_subtype_val hP
  have hne : narrowed ≠ [] := by
    intro hnil
    rw [← hitems, hnil] at h
    exact h rfl
  have hmap : least? before (narrowed.map Subtype.val) =
      (least? (fun a b : Subtype P => before a.val b.val) narrowed).map Subtype.val :=
    least?_map (fun _ _ => rfl) narrowed
  obtain ⟨best, hbest, hfound, hleast⟩ := @exists_least? (Subtype P) (fun a b => before a.val b.val)
    (fun a b c => htrans a.val b.val c.val a.2 b.2 c.2) (fun a => hirrefl a.val a.2) narrowed hne
  rw [hitems, hfound] at hmap
  refine ⟨best.val, hitems ▸ List.mem_map_of_mem hbest, hmap, ?_⟩
  intro item hitem
  rw [← hitems] at hitem
  obtain ⟨narrow, hnarrow, rfl⟩ := List.mem_map.mp hitem
  exact hleast narrow hnarrow

end CardCensus
