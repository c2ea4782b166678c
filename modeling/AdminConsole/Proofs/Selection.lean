/-
# `Proofs.Selection` — what is selected is a set kept in order

A selection is seen through the keys of its rows.  A toggle erases the first
occurrence of a key or puts the key at the end (`keys_toggle`), and everything that
is asked of a selection is asked of its keys (`isSelected_iff`, `isAllSelected_iff`).

No step looks for repetitions.  They stay away because no step brings one in: rows
that are shown or selected as a whole come with distinct keys, a toggle adds only
what is not there, and rows are selected all at once only from those in view.  So the
invariant of a run is about both lists (`KeptApart`): the keys in view differ, and so
do those selected.  The rows in view at the beginning come with distinct keys like all
later ones; where there are none, a run begins at `ofItems []`.  Under the invariant a
toggle takes a key out for good, and that is all that the statements about membership
need.
-/
import AdminConsole.Resource.Item
import AdminConsole.Selection

namespace AdminConsole.Selection

variable {α κ : Type} [Keyed α κ]

/-- Rows of which no two have the same key. -/
def Distinct (rows : List α) : Prop := (rows.map Keyed.key).Nodup

/-- An event that brings in rows with distinct keys only.  The row of a toggle may be any. -/
def Event.Distinct : Event α → Prop
  | .setItems items => Selection.Distinct items
  | .setSelected items => Selection.Distinct items
  | .toggle _ => True
  | .selectAll _ => True
  | .clear => True

/-- The keys in view differ, and so do those of the selected rows. -/
structure KeptApart (s : Selection α) : Prop where
  items : Distinct s.items
  selected : s.keys.Nodup

theorem keptApart_ofItems {items : List α} (h : Distinct items) : (ofItems items).KeptApart :=
  ⟨h, List.nodup_nil⟩

variable [DecidableEq κ] {s : Selection α}

instance (rows : List α) : Decidable (Distinct rows) :=
  inferInstanceAs (Decidable (rows.map Keyed.key).Nodup)

instance : (e : Event α) → Decidable e.Distinct
  | .setItems items => inferInstanceAs (Decidable (Selection.Distinct items))
  | .setSelected items => inferInstanceAs (Decidable (Selection.Distinct items))
  | .toggle _ => .isTrue trivial
  | .selectAll _ => .isTrue trivial
  | .clear => .isTrue trivial

/-! ## Questions are about keys -/

theorem isSelected_iff {a : α} : s.isSelected a = true ↔ Keyed.key a ∈ s.keys := by
  simp only [isSelected, keys]
  rw [List.any_eq_true, List.mem_map]
  simp only [decide_eq_true_eq]

theorem isAllSelected_iff :
    s.isAllSelected = true ↔ s.items ≠ [] ∧ ∀ a ∈ s.items, Keyed.key a ∈ s.keys := by
  simp only [isAllSelected]
  rw [Bool.and_eq_true, List.all_eq_true, Bool.not_eq_true', List.isEmpty_eq_false_iff]
  exact and_congr_right fun _ => forall₂_congr fun a _ => isSelected_iff

/-! ## Toggling -/

theorem map_key_dropFirst (k : κ) (rows : List α) :
    (dropFirst k rows).map Keyed.key = (rows.map Keyed.key).erase k := by
  induction rows with
  | nil => rfl
  | cons a rows ih =>
      rw [dropFirst, List.map_cons, List.erase_cons]
      by_cases h : Keyed.key a = k
      · simp [h]
      · simp [h, ih]

theorem keys_toggle (s : Selection α) (a : α) :
    (s.toggle a).keys =
      if Keyed.key a ∈ s.keys then s.keys.erase (Keyed.key a) else s.keys ++ [Keyed.key a] := by
  simp only [toggle]
  by_cases h : Keyed.key a ∈ s.keys
  · rw [if_pos (isSelected_iff.mpr h), if_pos h]
    exact map_key_dropFirst (Keyed.key a) s.selected
  · rw [if_neg (mt isSelected_iff.mp h), if_neg h]
    exact List.map_append

theorem items_toggle (s : Selection α) (a : α) : (s.toggle a).items = s.items := by
  simp only [toggle]
  split <;> rfl

theorem filter_keys_toggle (s : Selection α) (a : α) :
    (s.toggle a).keys.filter (fun k => k ≠ Keyed.key a)
      = s.keys.filter (fun k => k ≠ Keyed.key a) := by
  rw [keys_toggle]
  split
  · rw [← List.erase_filter]
    exact List.erase_of_not_mem (by simp)
  · simp

/-- A toggle flips the membership of its own key and of no other. -/
theorem mem_keys_toggle (h : s.keys.Nodup) (a : α) (k : κ) :
    k ∈ (s.toggle a).keys ↔ if k = Keyed.key a then k ∉ s.keys else k ∈ s.keys := by
  rw [keys_toggle]
  by_cases hk : k = Keyed.key a
  · rw [if_pos hk, ← hk]
    by_cases hin : k ∈ s.keys
    · rw [if_pos hin]
      simp [h.mem_erase_iff, hin]
    · simp [hin]
  · rw [if_neg hk]
    by_cases hin : Keyed.key a ∈ s.keys
    · rw [if_pos hin, List.mem_erase_of_ne hk]
    · simp [hin, hk]

theorem nodup_keys_toggle (h : s.keys.Nodup) (a : α) : (s.toggle a).keys.Nodup := by
  rw [keys_toggle]
  split
  · exact h.erase _
  next hnew =>
      refine List.nodup_append.mpr ⟨h, List.pairwise_singleton _ _, ?_⟩
      rintro k hk _ hk' rfl
      exact hnew (List.mem_singleton.mp hk' ▸ hk)

/-! ## Runs -/

theorem KeptApart.step (h : s.KeptApart) {e : Event α} (he : e.Distinct) : (s.step e).KeptApart := by
  cases e with
  | setItems items => exact ⟨he, h.selected⟩
  | setSelected items => exact ⟨h.items, he⟩
  | toggle a => exact ⟨(items_toggle s a).symm ▸ h.items, nodup_keys_toggle h.selected a⟩
  | selectAll on =>
      cases on with
      | true => exact ⟨h.items, h.items⟩
      | false => exact ⟨h.items, List.nodup_nil⟩
  | clear => exact ⟨h.items, List.nodup_nil⟩

theorem KeptApart.after (h : s.KeptApart) {events : List (Event α)}
    (hevents : ∀ e ∈ events, e.Distinct) : (s.after events).KeptApart := by
  induction events generalizing s with
  | nil => exact h
  | cons e events ih =>
      obtain ⟨he, hrest⟩ := List.forall_mem_cons.mp hevents
      exact ih (h.step he) hrest

/-- **What is selected is a set kept in order.**  At every moment of a run no key is selected twice; a
toggle flips the membership of one key and leaves the others in their order, and a second one restores the
set; other rows in view change nothing about what is selected.  All are selected exactly when there are
rows in view and the key of each is selected, which selecting all brings about and a toggle of any of them
ends. -/
theorem selected_set_in_order {items : List α} (distinct : Distinct items)
    {events : List (Event α)} (hevents : ∀ e ∈ events, e.Distinct) :
    let s := (ofItems items).after events
    s.keys.Nodup ∧
      (∀ a : α,
        (∀ b : α, (s.toggle a).isSelected b =
          if Keyed.key b = Keyed.key a then !s.isSelected b else s.isSelected b) ∧
        (s.toggle a).keys.filter (fun k => k ≠ Keyed.key a)
          = s.keys.filter (fun k => k ≠ Keyed.key a) ∧
        ∀ k, k ∈ ((s.toggle a).toggle a).keys ↔ k ∈ s.keys) ∧
      (∀ rows, (s.setItems rows).selected = s.selected) ∧
      (s.isAllSelected = true ↔ s.items ≠ [] ∧ ∀ a ∈ s.items, Keyed.key a ∈ s.keys) ∧
      (s.items ≠ [] → (s.selectAll true).isAllSelected = true ∧
        ∀ a : α, Keyed.key a ∈ s.items.map Keyed.key →
          ((s.selectAll true).toggle a).isAllSelected = false) := by
  intro s
  have apart : s.KeptApart := (keptApart_ofItems distinct).after hevents
  have full : (s.selectAll true).KeptApart := ⟨apart.items, apart.items⟩
  refine ⟨apart.selected, fun a => ⟨fun b => ?_, filter_keys_toggle s a, fun k => ?_⟩,
    fun _ => rfl, isAllSelected_iff, fun hne => ⟨?_, fun a ha => ?_⟩⟩
  · rw [Bool.eq_iff_iff, isSelected_iff, mem_keys_toggle apart.selected]
    split
    · rw [Bool.not_eq_true', ← Bool.not_eq_true, isSelected_iff]
    · exact isSelected_iff.symm
  · rw [mem_keys_toggle (nodup_keys_toggle apart.selected a), mem_keys_toggle apart.selected]
    split
    · exact Classical.not_not
    · rfl
  · exact isAllSelected_iff.mpr ⟨hne, fun a ha => List.mem_map_of_mem ha⟩
  · -- the row in view with the key that was taken out is not selected any more
    obtain ⟨b, hb, hkey⟩ := List.mem_map.mp ha
    have hgone : Keyed.key b ∉ ((s.selectAll true).toggle a).keys := by
      rw [mem_keys_toggle full.selected, if_pos hkey, Classical.not_not, hkey]
      exact ha
    rw [Bool.eq_false_iff, Ne, isAllSelected_iff, items_toggle]
    exact fun h => hgone (h.2 b hb)

/-- A row that is not in view, a row under another name, and a page that keeps a selected row. -/
theorem selected_set_in_order_hosts :
    let rows := [1, 2, 3].map Item.bare
    let renamed : Item := { Item.bare 2 with name := some "b" }
    let events : List (Event Item) := [.toggle (Item.bare 7), .selectAll true, .toggle renamed,
      .setItems [Item.bare 3, renamed], .toggle (Item.bare 9)]
    let s := (ofItems rows).after events
    Distinct rows ∧ (∀ e ∈ events, e.Distinct) ∧ s.keys = [1, 3, 9] ∧ s.keys.Nodup ∧
      (s.toggle (Item.bare 3)).isSelected renamed = false ∧
      (s.selectAll true).isAllSelected = true ∧
      ((s.selectAll true).toggle (Item.bare 2)).isAllSelected = false := by
  intro rows renamed events s
  have distinct : Distinct rows := by decide
  have hevents : ∀ e ∈ events, e.Distinct := by decide
  obtain ⟨hnodup, htoggle, -, -, hall⟩ := selected_set_in_order distinct hevents
  obtain ⟨hfull, hless⟩ := hall (List.cons_ne_nil _ _)
  refine ⟨distinct, hevents, by decide, hnodup, ?_, hfull, hless (Item.bare 2) (by decide)⟩
  exact ((htoggle (Item.bare 3)).1 renamed).trans (by decide)

end AdminConsole.Selection
