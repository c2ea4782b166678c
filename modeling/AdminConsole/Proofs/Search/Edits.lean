/-
# `Proofs.Search.Edits` — edits of the search string are edits of the params

A toolbar may keep its params in the search string only: each edit reads them,
changes them and writes them back.  Nothing is lost by that.  Every edit keeps
params canonical (`Edit.canonical_apply`), and canonical params are read as they
were written, so reading after a row of edits gives what the edits make of the
params when no text comes between them (`parse_foldl_relocate`).

One search would break this: on the field with the number of rows it leaves a
text where an integer is read.
-/
import AdminConsole.Proofs.Query.Canonical
import AdminConsole.Command.Location

namespace AdminConsole.Search

open Query

/-- A scope of a toolbar: the page and the number of rows are its integer fields, and its defaults
are canonical. -/
structure Paged (scope : Scope) : Prop where
  isInteger : ∀ field, scope.isInteger field = (field == pageField || field == pageSizeField)
  defaults : Canonical scope scope.defaults

/-- The edits that a toolbar offers: a search has a key that is not the number of rows, a page is a
signed integer of 64 bits, and a number of rows an unsigned one of 32 bits. -/
def Edit.Offered : Edit → Prop
  | .search t => t.field ≠ "" ∧ t.field ≠ pageSizeField
  | .page n => Text.IsInt64 n
  | .pageSize size => (size : Int) ≤ Text.maxNat32
  | .without _ _ => True
  | .clear => True
  | .sort _ _ => True

instance (e : Edit) : Decidable e.Offered := by
  cases e <;> unfold Edit.Offered <;> infer_instance

theorem isInt64_of_le {n : Nat} (h : (n : Int) ≤ Text.maxNat32) : Text.IsInt64 n := by
  simp only [Text.IsInt64, Text.minInt64, Text.maxInt64]
  simp only [Text.maxNat32] at h
  omega

theorem isInt64_max_one {n : Int} (h : Text.IsInt64 n) : Text.IsInt64 (max n 1) := by
  simp only [Text.IsInt64, Text.minInt64, Text.maxInt64] at h ⊢
  omega

section Edits

variable {scope : Scope} {params : Params}

theorem isInteger_eq_false (paged : Paged scope) {field : String} (hp : field ≠ pageField)
    (hs : field ≠ pageSizeField) : scope.isInteger field = false := by
  rw [paged.isInteger]
  simp [hp, hs]

theorem canonical_firstPage (paged : Paged scope) : (firstPage scope).Canonical scope pageField := by
  simp only [firstPage]
  cases hd : scope.defaults.get? pageField with
  | none => exact Value.canonical_one (Scalar.stable_int (paged.isInteger pageField) (by decide))
  | some d => exact paged.defaults.value hd

theorem canonical_resetPage (paged : Paged scope) (h : Canonical scope params) :
    Canonical scope (resetPage scope params) :=
  h.insert (by decide) (canonical_firstPage paged)

theorem get?_resetPage (scope : Scope) (params : Params) (field : String) :
    (resetPage scope params).get? field
      = if field = pageField then some (firstPage scope) else params.get? field :=
  Dict.get?_insert params field pageField (firstPage scope)

theorem resetPage_insert (scope : Scope) (params : Params) (v : Value) :
    resetPage scope (params.insert pageField v) = resetPage scope params := by
  apply Dict.ext_get?
  intro field
  rw [get?_resetPage, get?_resetPage, Dict.get?_insert]
  split <;> rfl

/-! ## Searching -/

theorem stable_searched (h : Canonical scope params) {field : String} :
    ∀ s ∈ searched scope params field, s.Stable scope field := by
  intro s hs
  simp only [searched] at hs
  cases hv : params.get? field with
  | none => simp [hv] at hs
  | some v =>
      simp only [hv] at hs
      split at hs
      · exact absurd hs List.not_mem_nil
      · exact (h.value hv).stable s hs

theorem addScalar_ne_nil (ss : List Scalar) (s : Scalar) : addScalar ss s ≠ [] := by
  simp only [addScalar]
  split
  next hm => exact List.ne_nil_of_mem hm
  next => simp

theorem mem_addScalar {ss : List Scalar} {s t : Scalar} (h : t ∈ addScalar ss s) :
    t ∈ ss ∨ t = s := by
  simp only [addScalar] at h
  split at h
  · exact .inl h
  · rcases List.mem_append.mp h with h | h
    · exact .inl h
    · exact .inr (List.mem_singleton.mp h)

theorem canonical_withSearch (paged : Paged scope) (h : Canonical scope params) {t : Term}
    (hname : t.field ≠ "") (hsize : t.field ≠ pageSizeField) :
    Canonical scope (withSearch scope params t) := by
  simp only [withSearch]
  by_cases hpage : t.field = pageField
  · -- what the search writes is overwritten by the first page
    rw [hpage]
    show Canonical scope (resetPage scope (params.insert pageField _))
    rw [resetPage_insert]
    exact canonical_resetPage paged h
  · refine canonical_resetPage paged (h.insert hname (Value.canonical_ofParts ?_ ?_))
    · exact addScalar_ne_nil _ _
    · intro s hs
      rcases mem_addScalar hs with hs | rfl
      · exact stable_searched h s hs
      · exact Scalar.stable_text (isInteger_eq_false paged hpage hsize) t.value

/-! ## Taking values away -/

theorem get?_removeField_of_ne (scope : Scope) (params : Params) {field other : String}
    (h : other ≠ field) (doomed : Value) :
    (removeField scope params field doomed).get? other = params.get? other := by
  simp only [removeField]
  split
  · rfl
  · split
    · split
      · exact Dict.get?_insert_of_ne h params _
      · rw [Dict.get?_erase, if_neg h]
    · exact Dict.get?_insert_of_ne h params _

/-- The field keeps the scalars with other texts; without any it falls back to its default. -/
theorem get?_removeField_self (scope : Scope) {field : String} {v : Value}
    (h : params.get? field = some v) (doomed : Value) :
    (removeField scope params field doomed).get? field
      = (Value.ofScalars? (v.without (doomed.scalars.map Scalar.toText))).or
          (scope.defaults.get? field) := by
  simp only [removeField, h]
  cases v.without (doomed.scalars.map Scalar.toText) with
  | nil =>
      cases hd : scope.defaults.get? field with
      | none => rw [Dict.get?_erase, if_pos rfl]; rfl
      | some d => exact Dict.get?_insert_self params field d
  | cons s ss => exact Dict.get?_insert_self params field (.ofParts (s :: ss))

theorem canonical_removeField (paged : Paged scope) (h : Canonical scope params) (field : String)
    (doomed : Value) : Canonical scope (removeField scope params field doomed) := by
  simp only [removeField]
  cases hv : params.get? field with
  | none => exact h
  | some v =>
      have hname := h.named hv
      have hstable : ∀ s ∈ v.without (doomed.scalars.map Scalar.toText), s.Stable scope field :=
        fun s hs => (h.value hv).stable s (List.mem_filter.mp hs).1
      simp only
      cases hleft : v.without (doomed.scalars.map Scalar.toText) with
      | nil =>
          -- an emptied field falls back to its default, or vanishes
          cases hd : scope.defaults.get? field with
          | none => exact h.erase hd
          | some d => exact h.insert hname (paged.defaults.value hd)
      | cons s ss =>
          rw [hleft] at hstable
          exact h.insert hname (Value.canonical_ofParts (List.cons_ne_nil s ss) hstable)

/-! ## All edits -/

theorem canonical_sortedBy (paged : Paged scope) (h : Canonical scope params) (key : String)
    (descending : Bool) : Canonical scope (sortedBy scope params key descending) := by
  have horder : scope.isInteger orderField = false :=
    isInteger_eq_false paged (by decide) (by decide)
  exact canonical_resetPage paged
    (h.insert (by decide) (Value.canonical_one (Scalar.stable_text horder _)))

theorem canonical_withPage (paged : Paged scope) (h : Canonical scope params) {n : Int}
    (hn : Text.IsInt64 n) : Canonical scope (withPage params n) :=
  h.insert (by decide)
    (Value.canonical_one (Scalar.stable_int (paged.isInteger pageField) (isInt64_max_one hn)))

theorem isInt64_currentPage
    (h : ∀ {v}, params.get? pageField = some v → v.Canonical scope pageField) :
    Text.IsInt64 (currentPage params) := by
  have hone : Text.IsInt64 1 := by decide
  simp only [currentPage]
  cases hv : params.get? pageField with
  | none => exact hone
  | some v =>
      have hcanon := h hv
      cases v with
      | many ss => exact hone
      | one s =>
          cases s with
          | int n =>
              have hfits : Text.IsInt64 n :=
                Scalar.isInt64_of_stable (hcanon.stable (.int n) List.mem_cons_self)
              simp only [Value.int?]
              split
              · exact hfits
              · exact hone
          | text s =>
              simp only [Value.int?]
              cases hn : Text.int64? (Text.trimBlanks s.toList) with
              | none => exact hone
              | some n =>
                  simp only
                  split
                  · exact Text.isInt64_of_int64? hn
                  · exact hone

theorem currentPage_of_get? {n : Int} (h : params.get? pageField = some (.one (.int n)))
    (hn : 0 < n) : currentPage params = n := by
  simp only [currentPage, h, Value.int?]
  exact if_pos hn

theorem currentPage_congr {params' : Params} (h : params.get? pageField = params'.get? pageField) :
    currentPage params = currentPage params' := by
  simp only [currentPage]
  rw [h]

theorem canonical_withPageSize (paged : Paged scope) (h : Canonical scope params) {size : Nat}
    (hsize : (size : Int) ≤ Text.maxNat32) : Canonical scope (withPageSize scope params size) :=
  canonical_resetPage paged (h.insert (by decide) (Value.canonical_one
    (Scalar.stable_int (paged.isInteger pageSizeField) (isInt64_max_one (isInt64_of_le hsize)))))

theorem Edit.canonical_apply (paged : Paged scope) (h : Canonical scope params) {e : Edit}
    (offered : e.Offered) : Canonical scope (e.apply scope params) := by
  cases e with
  | search t => exact canonical_withSearch paged h offered.1 offered.2
  | without field value => exact canonical_resetPage paged (canonical_removeField paged h field _)
  | clear => exact paged.defaults
  | sort key descending => exact canonical_sortedBy paged h key descending
  | page n => exact canonical_withPage paged h offered
  | pageSize size => exact canonical_withPageSize paged h offered

end Edits

/-! ## Rows of edits -/

section Rows

variable {scope : Scope} {search : String} {edits : List Edit}

open Command (applyAll relocateAll)

theorem Edit.parse_relocate (paged : Paged scope) (plain : Plain search) {e : Edit}
    (offered : e.Offered) :
    parse scope (e.relocate scope search) = e.apply scope (parse scope search) :=
  parse_update paged.defaults plain
    (e.canonical_apply paged (canonical_parse paged.defaults search) offered)

theorem canonical_applyAll (paged : Paged scope) {params : Params} (h : Canonical scope params)
    (offered : ∀ e ∈ edits, e.Offered) : Canonical scope (applyAll scope params edits) := by
  induction edits generalizing params with
  | nil => exact h
  | cons e edits ih =>
      obtain ⟨he, hedits⟩ := List.forall_mem_cons.mp offered
      exact ih (e.canonical_apply paged h he) hedits

/-- Reading and writing at every edit makes no difference. -/
theorem parse_foldl_relocate (paged : Paged scope) (plain : Plain search)
    (offered : ∀ e ∈ edits, e.Offered) :
    parse scope (edits.foldl (Edit.relocate scope) search)
      = applyAll scope (parse scope search) edits := by
  induction edits generalizing search with
  | nil => rfl
  | cons e edits ih =>
      obtain ⟨he, hedits⟩ := List.forall_mem_cons.mp offered
      have hnext := ih (plain_update scope plain (e.apply scope (parse scope search))) hedits
      rw [List.foldl_cons]
      show parse scope (edits.foldl (Edit.relocate scope) (update scope search _)) = _
      rw [hnext]
      show applyAll scope (parse scope (e.relocate scope search)) edits = _
      rw [e.parse_relocate paged plain he]
      rfl

/-- Nor does it to read before the first edit and to write after the last one. -/
theorem parse_relocateAll (paged : Paged scope) (plain : Plain search)
    (offered : ∀ e ∈ edits, e.Offered) :
    parse scope (relocateAll scope search edits) = applyAll scope (parse scope search) edits :=
  parse_update paged.defaults plain
    (canonical_applyAll paged (canonical_parse paged.defaults search) offered)

end Rows

theorem paged_scope (k : Kind) {pageSize : Nat} (h : (pageSize : Int) ≤ Text.maxNat32) :
    Paged (k.scope pageSize) where
  isInteger := k.isInteger_scope pageSize
  defaults := k.canonical_defaults (isInt64_of_le h)

end AdminConsole.Search
