/-
# `Proofs.Search.Repeated` — a search made twice

A toolbar that keeps its params in the search string reads them again before the
same search is made a second time.  What was read is written with the same text
as before (`Legible.spelling?_parse_encode`), so the second search can only differ on its
own key, and there it depends on how the values of the key come back.

They come back as they were if the searched value is a text for its key and the
values are not mistaken for the default of the key.  An integer field gives a
numeral back as an integer, beside which the text counts as new; and values that
are spelled like the default are not written at all, so that the second search
begins without them.  A search *settles* when it meets neither (`Settles`), or
meets it on a key that the searched value has for itself.
-/
import AdminConsole.Proofs.Query.Rewriting
import AdminConsole.Proofs.Search.Edits

namespace AdminConsole.Search

open Query

/-- The scalars of its key after a search. -/
def Term.scalars (t : Term) (scope : Scope) (params : Params) : List Scalar :=
  addScalar (searched scope params t.field) (.text t.value)

/-- The value that a search gives to a key without values. -/
def Term.alone (t : Term) : Value := .one (.text t.value)

/-- A search whose values are read as they were written, or are written again as they were.  On the
page nothing is asked for, since a search overwrites it. -/
structure Settles (scope : Scope) (params : Params) (t : Term) : Prop where
  written : t.field ≠ pageField →
    scope.isDefault t.field (Value.ofParts (t.scalars scope params)) = true →
    scope.isDefault t.field t.alone = true
  read : t.field ≠ pageField → scope.normalScalar t.field (.text t.value) ≠ .text t.value →
    t.scalars scope params = [.text t.value] ∧ (scope.isDefault t.field t.alone = true ∨
      scope.defaults.get? t.field = some (scope.normal t.field t.alone))

variable {scope : Scope} {params : Params} {location : String} {t : Term} {field : String}

/-! ## One search -/

theorem get?_withSearch (scope : Scope) (params : Params) (t : Term) (field : String) :
    (withSearch scope params t).get? field =
      if field = pageField then some (firstPage scope)
      else if field = t.field then some (Value.ofParts (t.scalars scope params))
      else params.get? field := by
  simp only [withSearch]
  rw [get?_resetPage, Dict.get?_insert]
  rfl

theorem get?_withSearch_self (hpage : t.field ≠ pageField) :
    (withSearch scope params t).get? t.field = some (Value.ofParts (t.scalars scope params)) := by
  rw [get?_withSearch, if_neg hpage, if_pos rfl]

theorem legible_withSearch (hpage : field ≠ pageField) (hkey : field ≠ t.field) :
    Legible scope (withSearch scope (parse scope location) t) field := by
  refine (legible_parse scope location field).congr ?_
  rw [get?_withSearch, if_neg hpage, if_neg hkey]

theorem named_withSearch (name : t.field ≠ "") :
    scope.Named (withSearch scope (parse scope location) t) :=
  (legible_withSearch (by decide) name.symm).named

theorem stable_searched_parse :
    ∀ s ∈ searched scope (parse scope location) field, s.Stable scope field := by
  intro s hs
  simp only [searched] at hs
  cases hv : (parse scope location).get? field with
  | none => simp [hv] at hs
  | some v =>
      simp only [hv] at hs
      split at hs
      next => exact absurd hs List.not_mem_nil
      next hnot =>
          rcases (legible_parse _ _ _).value hv with ⟨-, hcanon⟩ | hd
          · exact hcanon.stable s hs
          · exact absurd hd hnot

theorem scalars_ne_nil (t : Term) (scope : Scope) (params : Params) : t.scalars scope params ≠ [] :=
  addScalar_ne_nil _ _

theorem mem_scalars (t : Term) (scope : Scope) (params : Params) :
    .text t.value ∈ t.scalars scope params := by
  simp only [Term.scalars, addScalar]
  split
  next hm => exact hm
  next => simp

theorem scalars_of_default (h : params.get? t.field = scope.defaults.get? t.field) :
    t.scalars scope params = [.text t.value] := by
  have hnone : searched scope params t.field = [] := by
    simp only [searched]
    rw [h]
    cases scope.defaults.get? t.field with
    | none => rfl
    | some d => exact if_pos rfl
  simp only [Term.scalars]
  rw [hnone]
  rfl

theorem scalars_of_mem {v : Value} (h : params.get? t.field = some v)
    (hd : scope.defaults.get? t.field ≠ some v) (hm : .text t.value ∈ v.scalars) :
    t.scalars scope params = v.scalars := by
  have hall : searched scope params t.field = v.scalars := by
    simp only [searched]
    rw [h]
    exact if_neg hd
  simp only [Term.scalars]
  rw [hall]
  exact if_pos hm

/-! ## Two searches -/

/-- If the values of a key are written, a search that settles finds them as it left them. -/
theorem scalars_again (name : t.field ≠ "") (hpage : t.field ≠ pageField)
    (settles : Settles scope (parse scope location) t)
    (hwritten : scope.isDefault t.field (Value.ofParts (t.scalars scope (parse scope location)))
      = false) :
    t.scalars scope (parse scope (encode scope (withSearch scope (parse scope location) t)))
      = t.scalars scope (parse scope location) := by
  have hne : (Value.ofParts (t.scalars scope (parse scope location))).scalars ≠ [] := by
    rw [Value.scalars_ofParts]
    exact scalars_ne_nil t scope _
  have hdeviates : scope.Deviates t.field _ := ⟨name, hne, isDefault_eq_false_iff.mp hwritten⟩
  have hback := get?_parse_encode_of_deviates (get?_withSearch_self hpage) hdeviates
  by_cases htext : scope.normalScalar t.field (.text t.value) = .text t.value
  · -- all values come back, and the searched one is among them
    have hstable : ∀ s ∈ t.scalars scope (parse scope location), s.Stable scope t.field := by
      intro s hs
      rcases mem_addScalar hs with hs | rfl
      · exact stable_searched_parse s hs
      · exact (readScalar_encode scope t.field (.text t.value)).trans htext
    have hcanon : (Value.ofParts (t.scalars scope (parse scope location))).Canonical scope t.field :=
      Value.canonical_ofParts (scalars_ne_nil t scope _) hstable
    have hnot : scope.defaults.get? t.field
        ≠ some (Value.ofParts (t.scalars scope (parse scope location))) := fun hd =>
      hdeviates.differs _ hd rfl
    have hmem : .text t.value
        ∈ (Value.ofParts (t.scalars scope (parse scope location))).scalars := by
      rw [Value.scalars_ofParts]
      exact mem_scalars t scope _
    rw [Value.normal_eq_self hcanon] at hback
    rw [scalars_of_mem hback hnot hmem, Value.scalars_ofParts]
  · -- the searched value is alone and comes back as the default, so it is searched for anew
    obtain ⟨halone, hd⟩ := settles.read hpage htext
    rw [halone] at hwritten hback ⊢
    rcases hd with hd | hd
    · exact absurd (hwritten.symm.trans hd) (by decide)
    · exact scalars_of_default (hback.trans hd.symm)

theorem spelling?_again (name : t.field ≠ "") (hpage : t.field ≠ pageField)
    (settles : Settles scope (parse scope location) t) :
    let once := withSearch scope (parse scope location) t
    let twice := withSearch scope (parse scope (encode scope once)) t
    scope.spelling? twice t.field = scope.spelling? once t.field := by
  intro once twice
  have honce : once.get? t.field = some (Value.ofParts (t.scalars scope (parse scope location))) :=
    get?_withSearch_self hpage
  have htwice : twice.get? t.field
      = some (Value.ofParts (t.scalars scope (parse scope (encode scope once)))) :=
    get?_withSearch_self hpage
  cases hdefault : scope.isDefault t.field (Value.ofParts (t.scalars scope (parse scope location))) with
  | true =>
      -- nothing is written, and the second search begins without values
      have hback := get?_parse_encode_of_isDefault honce hdefault
      rw [scalars_of_default hback] at htwice
      rw [spelling?_of_isDefault honce hdefault,
        spelling?_of_isDefault htwice (settles.written hpage hdefault)]
  | false =>
      simp only [Scope.spelling?]
      rw [htwice, honce, scalars_again name hpage settles hdefault]

theorem encode_again (name : t.field ≠ "") (settles : Settles scope (parse scope location) t) :
    let once := withSearch scope (parse scope location) t
    encode scope (withSearch scope (parse scope (encode scope once)) t) = encode scope once := by
  intro once
  apply encode_of_spelling?_eq
  intro field
  by_cases hpage : field = pageField
  · -- both searches go back to the first page
    simp only [Scope.spelling?]
    rw [get?_withSearch, get?_withSearch, if_pos hpage, if_pos hpage]
  · by_cases hkey : field = t.field
    · subst hkey
      exact spelling?_again name hpage settles
    · have hsame : scope.spelling? (parse scope (encode scope once)) field
          = scope.spelling? once field := (legible_withSearch hpage hkey).spelling?_parse_encode
      rw [← hsame]
      simp only [Scope.spelling?]
      rw [get?_withSearch, if_neg hpage, if_neg hkey]

/-- **Searching twice is searching once.**  The location stays what it is when a search is made again on
what was read from it, for any scope, any plain location and any search with a key, if the search
settles. -/
theorem relocate_again (scope : Scope) (location : String) (t : Term) (plain : Plain location)
    (name : t.field ≠ "") (settles : Settles scope (parse scope location) t) :
    (Edit.search t).relocate scope ((Edit.search t).relocate scope location)
      = (Edit.search t).relocate scope location := by
  have front : scope.FrontUnmarked location := frontUnmarked_of_plain scope plain
  have named : scope.Named (withSearch scope (parse scope location) t) := named_withSearch name
  have hread : parse scope (update scope location (withSearch scope (parse scope location) t))
      = parse scope (encode scope (withSearch scope (parse scope location) t)) :=
    parse_congr (own_update scope plain _)
  show update scope (update scope location (withSearch scope (parse scope location) t))
      (withSearch scope (parse scope (update scope location
        (withSearch scope (parse scope location) t))) t)
    = update scope location (withSearch scope (parse scope location) t)
  rw [hread, update_of_foreign_eq (foreign_update front named)]
  exact update_of_encode_eq (encode_again name settles) location

/-- A further value behind two others, and the default number of rows as a numeral behind a blank. -/
theorem relocate_again_hosts :
    let scope : Scope := ⟨"host", Dict.ofList [("page", .one (.int 1)), ("page_size", .one (.int 20))],
      [pageField, pageSizeField], by decide⟩
    let location := "?user.q&host.name__in=a,b&host.page=7"
    let name : Term := ⟨.parse "name__in", "c,&?="⟩
    let size : Term := ⟨.parse "page_size", " 20"⟩
    (Edit.search name).relocate scope ((Edit.search name).relocate scope location)
        = (Edit.search name).relocate scope location ∧
      (Edit.search size).relocate scope ((Edit.search size).relocate scope location)
        = (Edit.search size).relocate scope location := by
  intro scope location name size
  have plain : Plain location := by decide +kernel
  have hname : Settles scope (parse scope location) name := ⟨by decide +kernel, by decide +kernel⟩
  have hsize : Settles scope (parse scope location) size := ⟨by decide +kernel, by decide +kernel⟩
  exact ⟨relocate_again scope location name plain (by decide +kernel) hname,
    relocate_again scope location size plain (by decide +kernel) hsize⟩

/-- A number of rows is found as an integer, beside which its text is added once more; and a value that
completes the default of its key is found alone the second time. -/
theorem relocate_again_ne :
    let scope : Scope := ⟨"host", Dict.ofList [("page", .one (.int 1)),
      ("kind", .many [.text "a", .text "b"])], [pageField, pageSizeField], by decide⟩
    let size : Term := ⟨.parse "page_size", "5"⟩
    let kind : Term := ⟨.parse "kind", "b"⟩
    (Plain "" ∧ size.field ≠ "" ∧
      (Edit.search size).relocate scope ((Edit.search size).relocate scope "")
        ≠ (Edit.search size).relocate scope "") ∧
    Plain "host.kind=a" ∧ kind.field ≠ "" ∧
      (Edit.search kind).relocate scope ((Edit.search kind).relocate scope "host.kind=a")
        ≠ (Edit.search kind).relocate scope "host.kind=a" := by
  decide +kernel

end AdminConsole.Search
