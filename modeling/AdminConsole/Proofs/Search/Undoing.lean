/-
# `Proofs.Search.Undoing` — taking a value off again undoes its search

A search and the removal of a value are written apart from each other.  The one
begins anew on a default and adds to everything else, and compares whole
scalars; the other compares texts, gives a single scalar back its tidy form, and
falls back to the default or drops the field.  They meet in the scalars that the
search found (`searched`): removing the value leaves exactly those
(`without_searched`), and what a removal makes of those is what the field held
before (`held_of_searched`).

Both steps need that the value was not there under its text, and the second that
params are kept in their tidy form.
-/
import AdminConsole.Proofs.Search.Repeated

namespace AdminConsole.Query

/-- The tidy form of a value: one scalar, or a sequence of at least two. -/
def Value.IsTidy : Value → Prop
  | .one _ => True
  | .many ss => 2 ≤ ss.length

instance (v : Value) : Decidable v.IsTidy := by
  cases v <;> unfold Value.IsTidy <;> infer_instance

theorem Value.ofScalars?_scalars {v : Value} (h : v.IsTidy) : ofScalars? v.scalars = some v := by
  cases v with
  | one s => rfl
  | many ss =>
      match ss, h with
      | _ :: _ :: _, _ => rfl

end AdminConsole.Query

namespace AdminConsole.Search

open Query

/-- Params with all defaults filled in, in which a value that is not the default has its tidy form. -/
structure WellKept (scope : Scope) (params : Params) : Prop where
  filled : ∀ field, params.get? field = none → scope.defaults.get? field = none
  tidy : ∀ field v, params.get? field = some v →
    scope.defaults.get? field = some v ∨ v.IsTidy

/-- What a search is for is not there: its key holds nothing, its default, or scalars with other texts. -/
def Term.IsNew (t : Term) (scope : Scope) (params : Params) : Prop :=
  ∀ v, params.get? t.field = some v →
    scope.defaults.get? t.field = some v ∨ ∀ s ∈ v.scalars, s.toText ≠ t.value

variable {scope : Scope} {params : Params} {t : Term} {field : String}

/-! ## The scalars that a search finds -/

theorem toText_searched (new : t.IsNew scope params) :
    ∀ s ∈ searched scope params t.field, s.toText ≠ t.value := by
  intro s hs
  simp only [searched] at hs
  cases hv : params.get? t.field with
  | none => simp [hv] at hs
  | some v =>
      simp only [hv] at hs
      split at hs
      · exact absurd hs List.not_mem_nil
      next hnot => exact (new v hv).resolve_left hnot s hs

/-- Of a value that was searched for anew, the scalars are left that the search found. -/
theorem without_searched (new : t.IsNew scope params) :
    (Value.ofParts (t.scalars scope params)).without [t.value]
      = searched scope params t.field := by
  have htexts := toText_searched new
  have hfresh : Scalar.text t.value ∉ searched scope params t.field := fun hm => htexts _ hm rfl
  have hkept : (searched scope params t.field).filter (fun s => !([t.value].contains s.toText))
      = searched scope params t.field := by
    apply List.filter_eq_self.mpr
    intro s hs
    simp [htexts s hs]
  have hgone : [Scalar.text t.value].filter (fun s => !([t.value].contains s.toText)) = [] := by
    simp [Scalar.toText]
  simp only [Value.without, Term.scalars, addScalar]
  rw [Value.scalars_ofParts, if_neg hfresh, List.filter_append, hkept, hgone, List.append_nil]

theorem held_of_searched (kept : WellKept scope params) (field : String) :
    (Value.ofScalars? (searched scope params field)).or (scope.defaults.get? field)
      = params.get? field := by
  simp only [searched]
  cases hv : params.get? field with
  | none => exact kept.filled field hv
  | some v =>
      simp only
      split
      next hd => exact hd
      next hnot =>
          rw [Value.ofScalars?_scalars ((kept.tidy field v hv).resolve_left hnot)]
          rfl

/-! ## Both edits -/

/-- **Taking a value off undoes the search for it.**  On a key that did not have the value, searching and
then removing it leaves the params as they were, on the first page.  This holds for every key, those of
the page, the number of rows and the order included; and unless the key is the page, the value was there
in between. -/
theorem without_undoes_search (kept : WellKept scope params) (new : t.IsNew scope params) :
    withoutFilter scope (withSearch scope params t) t.field t.value
        = params.insert pageField ((scope.defaults.get? pageField).getD (.one (.int 1))) ∧
      (t.field ≠ pageField → ∃ v, (withSearch scope params t).get? t.field = some v ∧
        .text t.value ∈ v.scalars) := by
  constructor
  · show withoutFilter scope (withSearch scope params t) t.field t.value = resetPage scope params
    apply Dict.ext_get?
    intro field
    simp only [withoutFilter]
    rw [get?_resetPage, get?_resetPage]
    by_cases hpage : field = pageField
    · rw [if_pos hpage, if_pos hpage]
    · rw [if_neg hpage, if_neg hpage]
      by_cases hkey : field = t.field
      · subst hkey
        rw [get?_removeField_self scope (get?_withSearch_self hpage)]
        show (Value.ofScalars? ((Value.ofParts (t.scalars scope params)).without [t.value])).or _ = _
        rw [without_searched new, held_of_searched kept]
      · rw [get?_removeField_of_ne scope _ hkey, get?_withSearch, if_neg hpage, if_neg hkey]
  · intro hpage
    refine ⟨_, get?_withSearch_self hpage, ?_⟩
    rw [Value.scalars_ofParts]
    exact mem_scalars t scope params

/-- A third value of a key, the value of a default sequence, and a search on the page. -/
theorem without_undoes_search_hosts :
    let scope : Scope := ⟨"host", Dict.ofList [("page", .many [.int 1, .text "x"]),
      ("kind", .many [.text "a"])], [pageField], by decide⟩
    let params : Params := Dict.ofList [("page", .one (.int 3)), ("kind", .many [.text "a"]),
      ("not__name__in", .many [.int 7, .text "b"])]
    let name : Term := ⟨.parse "not__name__in", "c,&"⟩
    let kind : Term := ⟨.parse "kind", "a"⟩
    let page : Term := ⟨.parse "page", "x"⟩
    withoutFilter scope (withSearch scope params name) "not__name__in" "c,&"
        = resetPage scope params ∧
      withoutFilter scope (withSearch scope params kind) "kind" "a" = resetPage scope params ∧
      withoutFilter scope (withSearch scope params page) "page" "x" = resetPage scope params := by
  intro scope params name kind page
  have kept : WellKept scope params := by
    constructor
    · intro field hnone
      cases hd : scope.defaults.get? field with
      | none => rfl
      | some d =>
          have hall : ∀ e ∈ scope.defaults.toList, params.get? e.1 ≠ none := by decide +kernel
          exact absurd hnone (hall (field, d) (Dict.get?_eq_some_iff.mp hd))
    · intro field v hv
      have hall : ∀ e ∈ params.toList, scope.defaults.get? e.1 = some e.2 ∨ e.2.IsTidy := by
        decide +kernel
      exact hall (field, v) (Dict.get?_eq_some_iff.mp hv)
  have hname : name.IsNew scope params := fun v hv => by
    cases hv
    exact .inr (by decide)
  have hkind : kind.IsNew scope params := fun v hv => by
    cases hv
    exact .inl rfl
  have hpage : page.IsNew scope params := fun v hv => by
    cases hv
    exact .inr (by decide)
  exact ⟨(without_undoes_search kept hname).1, (without_undoes_search kept hkind).1,
    (without_undoes_search kept hpage).1⟩

end AdminConsole.Search
