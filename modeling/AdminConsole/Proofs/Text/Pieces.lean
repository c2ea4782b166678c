/-
# `Proofs.Text.Pieces` — splitting undoes joining

A joined text is cut back into its pieces as long as none of them holds the
separator (`splitAll_join`), and the first separator behind a key is the one at
which key and value part (`splitFirst_append`).  The other way round no condition is
needed: the pieces of a text make it up (`join_splitAll`).  Joining is associative in
the one form that is needed: a row of pieces that was joined beforehand may stand for
its pieces at the end of a longer row (`join_append_join`).
-/
import AdminConsole.Text.Pieces

namespace AdminConsole.Text

variable {sep : Char}

/-! ## All separators -/

theorem splitAll_ne_nil (cs : List Char) : splitAll sep cs ≠ [] := by
  cases cs with
  | nil => exact List.cons_ne_nil _ _
  | cons c r =>
      simp only [splitAll]
      split
      · exact List.cons_ne_nil _ _
      · split
        · exact List.cons_ne_nil _ _
        · exact List.cons_ne_nil _ _

theorem splitAll_cons_of_ne {c : Char} (h : c ≠ sep) {r p : List Char} {ps : List (List Char)}
    (hr : splitAll sep r = p :: ps) : splitAll sep (c :: r) = (c :: p) :: ps := by
  rw [splitAll, if_neg h, hr]

theorem exists_splitAll_cons {c : Char} (h : c ≠ sep) (cs : List Char) :
    ∃ p ps, splitAll sep cs = p :: ps ∧ splitAll sep (c :: cs) = (c :: p) :: ps := by
  obtain ⟨p, ps, hcut⟩ := List.exists_cons_of_ne_nil (splitAll_ne_nil cs)
  exact ⟨p, ps, hcut, splitAll_cons_of_ne h hcut⟩

theorem splitAll_append {p : List Char} (h : sep ∉ p) (r : List Char) :
    splitAll sep (p ++ sep :: r) = p :: splitAll sep r := by
  induction p with
  | nil => rw [List.nil_append, splitAll, if_pos rfl]
  | cons c p ih =>
      have hc : c ≠ sep := fun he => h (he ▸ List.mem_cons_self)
      have hp : sep ∉ p := fun hm => h (List.mem_cons_of_mem c hm)
      exact splitAll_cons_of_ne hc (ih hp)

theorem splitAll_eq_singleton {p : List Char} (h : sep ∉ p) : splitAll sep p = [p] := by
  induction p with
  | nil => rfl
  | cons c p ih =>
      have hc : c ≠ sep := fun he => h (he ▸ List.mem_cons_self)
      have hp : sep ∉ p := fun hm => h (List.mem_cons_of_mem c hm)
      exact splitAll_cons_of_ne hc (ih hp)

/-- Pieces without the separator are found again in the joined text. -/
theorem splitAll_join {ps : List (List Char)} (hne : ps ≠ []) (h : ∀ p ∈ ps, sep ∉ p) :
    splitAll sep (join [sep] ps) = ps := by
  induction ps with
  | nil => exact absurd rfl hne
  | cons p ps ih =>
      have hp : sep ∉ p := h p List.mem_cons_self
      cases ps with
      | nil => exact splitAll_eq_singleton hp
      | cons q qs =>
          have hqs : splitAll sep (join [sep] (q :: qs)) = q :: qs :=
            ih (List.cons_ne_nil q qs) fun x hx => h x (List.mem_cons_of_mem p hx)
          show splitAll sep (p ++ [sep] ++ join [sep] (q :: qs)) = _
          rw [List.append_assoc, List.singleton_append, splitAll_append hp, hqs]

theorem not_mem_of_mem_splitAll {cs p : List Char} (h : p ∈ splitAll sep cs) : sep ∉ p := by
  induction cs generalizing p with
  | nil => exact List.mem_singleton.mp h ▸ List.not_mem_nil
  | cons c r ih =>
      simp only [splitAll] at h
      split at h
      next =>
          rcases List.mem_cons.mp h with rfl | h
          · exact List.not_mem_nil
          · exact ih h
      next hc =>
          split at h
          next hr => exact absurd hr (splitAll_ne_nil r)
          next q qs hr =>
              rcases List.mem_cons.mp h with rfl | h
              · intro hm
                rcases List.mem_cons.mp hm with he | hm
                · exact hc he.symm
                · exact ih (hr ▸ List.mem_cons_self) hm
              · exact ih (hr ▸ List.mem_cons_of_mem q h)

theorem splitAll_append_sep (cs r : List Char) :
    splitAll sep (cs ++ sep :: r) = splitAll sep cs ++ splitAll sep r := by
  induction cs with
  | nil =>
      show splitAll sep (sep :: r) = [] :: splitAll sep r
      rw [splitAll, if_pos rfl]
  | cons c cs ih =>
      by_cases hc : c = sep
      · rw [List.cons_append, splitAll, if_pos hc, ih, splitAll, if_pos hc]
        rfl
      · obtain ⟨p, ps, hcut, hcons⟩ := exists_splitAll_cons hc cs
        rw [hcut] at ih
        rw [List.cons_append, splitAll_cons_of_ne hc ih, hcons]
        rfl

/-! ## The first separator -/

theorem splitFirst_eq_none {p : List Char} (h : sep ∉ p) : splitFirst sep p = none := by
  induction p with
  | nil => rfl
  | cons c p ih =>
      have hc : c ≠ sep := fun he => h (he ▸ List.mem_cons_self)
      have hp : sep ∉ p := fun hm => h (List.mem_cons_of_mem c hm)
      rw [splitFirst, if_neg hc, ih hp]
      rfl

theorem splitFirst_append {p : List Char} (h : sep ∉ p) (r : List Char) :
    splitFirst sep (p ++ sep :: r) = some (p, r) := by
  induction p with
  | nil => rw [List.nil_append, splitFirst, if_pos rfl]
  | cons c p ih =>
      have hc : c ≠ sep := fun he => h (he ▸ List.mem_cons_self)
      have hp : sep ∉ p := fun hm => h (List.mem_cons_of_mem c hm)
      rw [List.cons_append, splitFirst, if_neg hc, ih hp]
      rfl

theorem splitFirst_cases (cs : List Char) :
    (sep ∉ cs ∧ splitFirst sep cs = none) ∨
      ∃ p r, sep ∉ p ∧ cs = p ++ sep :: r ∧ splitFirst sep cs = some (p, r) := by
  by_cases h : sep ∈ cs
  · obtain ⟨p, r, rfl, hp⟩ := List.eq_append_cons_of_mem h
    exact .inr ⟨p, r, hp, rfl, splitFirst_append hp r⟩
  · exact .inl ⟨h, splitFirst_eq_none h⟩

/-! ## The start of a text -/

theorem stripStart?_eq_some_iff {start cs rest : List Char} :
    stripStart? start cs = some rest ↔ cs = start ++ rest := by
  induction start generalizing cs with
  | nil =>
      rw [stripStart?, List.nil_append, Option.some.injEq]
  | cons s start ih =>
      cases cs with
      | nil => simp [stripStart?]
      | cons c cs =>
          rw [stripStart?]
          by_cases h : s = c
          · rw [if_pos h, ih, h, List.cons_append, List.cons.injEq]
            simp
          · rw [if_neg h]
            simp [Ne.symm h]

theorem stripStart?_eq_none_iff {start cs : List Char} :
    stripStart? start cs = none ↔ ¬start <+: cs := by
  constructor
  · rintro h ⟨rest, hrest⟩
    rw [stripStart?_eq_some_iff.mpr hrest.symm] at h
    cases h
  · intro h
    cases hs : stripStart? start cs with
    | none => rfl
    | some rest => exact absurd ⟨rest, (stripStart?_eq_some_iff.mp hs).symm⟩ h

theorem endsWith_iff {tail cs : List Char} : endsWith tail cs = true ↔ tail <:+ cs := by
  simp only [endsWith]
  rw [Option.isSome_iff_ne_none, ne_eq, stripStart?_eq_none_iff, Decidable.not_not,
    List.reverse_prefix]

/-! ## Rows of pieces -/

theorem join_cons (s : List Char) {ps : List (List Char)} (h : ps ≠ []) (p : List Char) :
    join s (p :: ps) = p ++ s ++ join s ps := by
  cases ps with
  | nil => exact absurd rfl h
  | cons q qs => rfl

/-- The pieces of a text make it up. -/
theorem join_splitAll (cs : List Char) : join [sep] (splitAll sep cs) = cs := by
  induction cs with
  | nil => rfl
  | cons c cs ih =>
      by_cases hc : c = sep
      · rw [splitAll, if_pos hc, join_cons [sep] (splitAll_ne_nil cs), ih, hc]
        rfl
      · obtain ⟨p, ps, hcut, hcons⟩ := exists_splitAll_cons hc cs
        rw [hcut] at ih
        rw [hcons, ← ih]
        cases ps <;> rfl

theorem join_append_join (s : List Char) (ps : List (List Char)) {qs : List (List Char)}
    (h : qs ≠ []) : join s (ps ++ [join s qs]) = join s (ps ++ qs) := by
  induction ps with
  | nil => rfl
  | cons p ps ih =>
      have hleft : ps ++ [join s qs] ≠ [] := by simp
      have hright : ps ++ qs ≠ [] := by simp [h]
      rw [List.cons_append, List.cons_append, join_cons s hleft, join_cons s hright, ih]

theorem toList_joinText (s : String) (parts : List String) :
    (joinText s parts).toList = join s.toList (parts.map String.toList) := by
  simp only [joinText]
  exact String.toList_ofList

end AdminConsole.Text
