/-
# `Proofs.Search.Rows` — what a row of edits does to one field

Seen from one field, most edits do nothing (`touches`), and those that search on
it add a scalar at the end (`added?`).  The first gives a frame: behind the last
edit that touches a field, the field stays (`get?_applyAll_last`).  The second gives
a sum: a field that edits only add to holds the scalars it had and then, once each
and in their order, those of the additions that it did not have
(`get?_applyAll_of_adds`).
-/
import AdminConsole.Proofs.Search.Repeated

namespace AdminConsole.Search

open Query
open Command (applyAll)

/-- Whether an edit touches a field. -/
def Edit.touches (field : String) : Edit → Bool
  | .search t => field == pageField || field == t.field
  | .without f _ => field == pageField || field == f
  | .clear => true
  | .sort _ _ => field == pageField || field == orderField
  | .pageSize _ => field == pageField || field == pageSizeField
  | .page _ => field == pageField

/-- The scalar that an edit adds to a field. -/
def Edit.added? (field : String) : Edit → Option Scalar
  | .search t => if t.field = field then some (.text t.value) else none
  | _ => none

/-- Scalars of a row that are not among others, each at its first place. -/
def unseen (seen row : List Scalar) : List Scalar := (row.filter fun s => s ∉ seen).eraseDups

variable {scope : Scope} {params : Params} {field : String} {ss : List Scalar}
  {e : Edit} {edits front back : List Edit}

/-! ## Edits that do not touch a field -/

theorem Edit.get?_apply_of_untouched (scope : Scope) (params : Params)
    (h : e.touches field = false) : (e.apply scope params).get? field = params.get? field := by
  cases e with
  | search t =>
      obtain ⟨hpage, hkey⟩ : field ≠ pageField ∧ field ≠ t.field := by simpa [touches] using h
      show (withSearch scope params t).get? field = _
      rw [get?_withSearch, if_neg hpage, if_neg hkey]
  | without f value =>
      obtain ⟨hpage, hfield⟩ : field ≠ pageField ∧ field ≠ f := by simpa [touches] using h
      show (resetPage scope (removeField scope params f _)).get? field = _
      rw [get?_resetPage, if_neg hpage, get?_removeField_of_ne scope params hfield]
  | clear => cases h
  | sort key descending =>
      obtain ⟨hpage, horder⟩ : field ≠ pageField ∧ field ≠ orderField := by simpa [touches] using h
      show (resetPage scope (params.insert orderField _)).get? field = _
      rw [get?_resetPage, if_neg hpage, Dict.get?_insert_of_ne horder]
  | pageSize size =>
      obtain ⟨hpage, hsize⟩ : field ≠ pageField ∧ field ≠ pageSizeField := by
        simpa [touches] using h
      show (resetPage scope (params.insert pageSizeField _)).get? field = _
      rw [get?_resetPage, if_neg hpage, Dict.get?_insert_of_ne hsize]
  | page n => exact Dict.get?_insert_of_ne (by simpa [touches] using h) params _

theorem applyAll_append (scope : Scope) (params : Params) (front back : List Edit) :
    applyAll scope params (front ++ back) = applyAll scope (applyAll scope params front) back :=
  List.foldl_append

theorem applyAll_cons (scope : Scope) (params : Params) (e : Edit) (edits : List Edit) :
    applyAll scope params (e :: edits) = applyAll scope (e.apply scope params) edits :=
  List.foldl_cons ..

theorem get?_applyAll_of_untouched (scope : Scope) (params : Params)
    (h : ∀ e ∈ edits, e.touches field = false) :
    (applyAll scope params edits).get? field = params.get? field := by
  induction edits generalizing params with
  | nil => rfl
  | cons e edits ih =>
      obtain ⟨he, hedits⟩ := List.forall_mem_cons.mp h
      rw [applyAll_cons, ih _ hedits, e.get?_apply_of_untouched scope params he]

/-- A field is as the last edit leaves it that touches it. -/
theorem get?_applyAll_last (scope : Scope) (params : Params)
    (h : ∀ e ∈ back, e.touches field = false) :
    (applyAll scope params (front ++ e :: back)).get? field
      = (e.apply scope (applyAll scope params front)).get? field := by
  rw [applyAll_append, applyAll_cons, get?_applyAll_of_untouched _ _ h]

/-! ## Edits that add to a field -/

theorem foldl_addScalar (ss row : List Scalar) : row.foldl addScalar ss = ss ++ unseen ss row := by
  simp only [unseen]
  induction row generalizing ss with
  | nil => exact (List.append_nil ss).symm
  | cons s row ih =>
      rw [List.foldl_cons, ih, List.filter_cons]
      by_cases hs : s ∈ ss
      · simp [addScalar, hs]
      · have hrest : (row.filter fun t => t ∉ ss ++ [s])
            = (row.filter fun t => t ∉ ss).filter fun t => !t == s := by
          rw [List.filter_filter]
          apply List.filter_congr
          intro t _
          by_cases ht : t ∈ ss <;> by_cases hts : t = s <;> simp [ht, hts]
        have hadd : addScalar ss s = ss ++ [s] := if_neg hs
        rw [hadd, hrest, if_pos (by simpa using hs), List.eraseDups_cons, List.append_assoc]
        rfl

theorem mem_unseen {seen row : List Scalar} {s : Scalar} (h : s ∈ unseen seen row) : s ∈ row :=
  (List.mem_filter.mp (List.mem_eraseDups.mp h)).1

theorem Edit.get?_apply_of_adds (free : scope.defaults.get? field = none) (hpage : field ≠ pageField)
    (adds : e.added? field = none → e.touches field = false)
    (h : params.get? field = Value.ofScalars? ss) :
    (e.apply scope params).get? field
      = Value.ofScalars? ((e.added? field).toList.foldl addScalar ss) := by
  cases hadded : e.added? field with
  | none => exact (e.get?_apply_of_untouched scope params (adds hadded)).trans h
  | some s =>
      cases e with
      | search t =>
          simp only [added?] at hadded
          split at hadded
          next hkey =>
              subst hkey
              cases hadded
              have hfound : searched scope params t.field = ss := by
                simp only [searched]
                rw [h]
                cases ss with
                | nil => rfl
                | cons s ss =>
                    show (if scope.defaults.get? t.field = some _ then [] else _) = _
                    rw [free, if_neg fun he => by cases he]
                    exact Value.scalars_ofParts (s :: ss)
              show (withSearch scope params t).get? t.field = _
              rw [get?_withSearch_self hpage]
              simp only [Term.scalars]
              rw [hfound]
              exact (Value.ofScalars?_of_ne_nil (addScalar_ne_nil ss _)).symm
          next => cases hadded
      | without f value => cases hadded
      | clear => cases hadded
      | sort key descending => cases hadded
      | pageSize size => cases hadded
      | page n => cases hadded

/-- A field that edits only add to holds its scalars and then the new ones, each once. -/
theorem get?_applyAll_of_adds (free : scope.defaults.get? field = none) (hpage : field ≠ pageField)
    (adds : ∀ e ∈ edits, e.added? field = none → e.touches field = false)
    (h : params.get? field = Value.ofScalars? ss) :
    (applyAll scope params edits).get? field
      = Value.ofScalars? (ss ++ unseen ss (edits.filterMap (Edit.added? field))) := by
  rw [← foldl_addScalar]
  induction edits generalizing params ss with
  | nil => exact h
  | cons e edits ih =>
      obtain ⟨he, hedits⟩ := List.forall_mem_cons.mp adds
      rw [applyAll_cons, ih hedits (e.get?_apply_of_adds free hpage he h), List.filterMap_cons]
      cases e.added? field <;> rfl

/-! ## The page -/

theorem Edit.get?_apply_pageField (scope : Scope) (params : Params) (h : ∀ n, e ≠ .page n)
    (kept : e ≠ .clear) : (e.apply scope params).get? pageField = some (firstPage scope) := by
  have hreset : ∀ params, (resetPage scope params).get? pageField = some (firstPage scope) :=
    fun params => (get?_resetPage scope params pageField).trans (if_pos rfl)
  cases e with
  | search t => exact hreset _
  | without f value => exact hreset _
  | clear => exact absurd rfl kept
  | sort key descending => exact hreset _
  | pageSize size => exact hreset _
  | page n => exact absurd rfl (h n)

end AdminConsole.Search
