/-
# `Proofs.Command.Listing` — a listing sends what it was asked for

The arguments of a listing are a row of edits: searches for its filters and for
what it excludes, then the sort key, the number of rows and the page.  Of the
params at the end of such a row, each field can be told apart.  A filter has the
scalars that were there and those that were asked for (`get?_edited_filter`); each
control is what the last edit left that touches it.

That is not yet what is sent, for the params go through the location first.  Nothing
keeps a filter from naming the number of rows, and a text for it is read as an
integer if it is a numeral.  So the row as a whole does not survive, but all other
fields do, because what they hold could have been read (`Query.Legible`).
-/
import AdminConsole.Command.Run
import AdminConsole.Proofs.Command.Ids
import AdminConsole.Proofs.Query.Rewriting
import AdminConsole.Proofs.Screen.Deleting
import AdminConsole.Proofs.Search.Chips
import AdminConsole.Proofs.Search.Rows

namespace AdminConsole.Query

/-- The scalars that params hold for a field. -/
def scalarsOf (params : Params) (field : String) : List Scalar :=
  ((params.get? field).map Value.scalars).getD []

theorem scalarsOf_eq {params : Params} {field : String} {ss : List Scalar}
    (h : params.get? field = Value.ofScalars? ss) : scalarsOf params field = ss := by
  simp only [scalarsOf]
  rw [h]
  cases ss with
  | nil => rfl
  | cons s ss => exact Value.scalars_ofParts (s :: ss)

end AdminConsole.Query

namespace AdminConsole.Command

open Query
open Search (Edit FilterKey controlFields unseen)

/-! ## What is asked for -/

namespace ListArgs

/-- The values that are asked for of a key: those of its filters, and then those of the excludes whose
key it is behind the mark. -/
def asked (a : ListArgs) (key : String) : List String :=
  ((a.filters.filter fun f => f.key = key).map Filter.value)
    ++ (a.excludes.filter fun f => FilterKey.negatedMark ++ f.key = key).map Filter.value

/-- Arguments such as the reader of a command line accepts. -/
structure Accepted (a : ListArgs) : Prop where
  filters : ∀ f ∈ a.filters ++ a.excludes, ∃ input, Filter.parse input = .ok f
  page : ∀ n ∈ a.page, Text.IsInt64 n
  pageSize : ∀ n ∈ a.pageSize, (n : Int) ≤ Text.maxNat32

/-- The edits that come first, for the filters and for the excludes. -/
def searches (a : ListArgs) : List Edit :=
  (a.filters.map fun f => searchFor false f.key f.value)
    ++ a.excludes.map fun f => searchFor true f.key f.value

/-- The params at the end of the edits. -/
def edited (a : ListArgs) (scope : Scope) : Params :=
  applyAll scope (parse scope (a.query.getD "")) a.edits

end ListArgs

theorem key_ne_empty {input : String} {f : Filter} (h : Filter.parse input = .ok f) : f.key ≠ "" := by
  simp only [Filter.parse] at h
  split at h
  · cases h
  next key value _ =>
      split at h
      · cases h
      next hkey =>
          cases h
          intro hempty
          have hnil : Text.trimBlanks key = [] := by simpa using congrArg String.toList hempty
          exact hkey (by rw [hnil]; rfl)

variable {a : ListArgs} {pageSize : Nat} {field : String}

/-! ## Filters -/

theorem filterMap_added?_searchFor (negated : Bool) (fs : List Filter) (field : String) :
    (fs.map fun f => searchFor negated f.key f.value).filterMap (Edit.added? field)
      = ((fs.filter fun f => (if negated then FilterKey.negatedMark ++ f.key else f.key) = field).map
          Filter.value).map .text := by
  induction fs with
  | nil => rfl
  | cons f fs ih =>
      have hadded : (searchFor negated f.key f.value).added? field
          = if (if negated then FilterKey.negatedMark ++ f.key else f.key) = field
              then some (.text f.value) else none := by
        rw [← field_searchFor negated f.key f.value]
        rfl
      rw [List.map_cons, List.filterMap_cons, hadded, ih, List.filter_cons]
      by_cases hkey : (if negated then FilterKey.negatedMark ++ f.key else f.key) = field
      · simp only [hkey, if_true, decide_true, List.map_cons]
      · simp only [hkey, if_false, decide_false, Bool.false_eq_true]

theorem filterMap_added?_edits (a : ListArgs) (field : String) :
    a.edits.filterMap (Edit.added? field) = (a.asked field).map .text := by
  have hsorts : (a.orderBy.toList.map fun key => Edit.sort key a.descending).filterMap
      (Edit.added? field) = [] := by
    cases a.orderBy <;> rfl
  have hsizes : (a.pageSize.toList.map Edit.pageSize).filterMap (Edit.added? field) = [] := by
    cases a.pageSize <;> rfl
  have hpages : (a.page.toList.map Edit.page).filterMap (Edit.added? field) = [] := by
    cases a.page <;> rfl
  simp only [ListArgs.edits, List.filterMap_append]
  rw [hsorts, hsizes, hpages, List.append_nil, List.append_nil, List.append_nil,
    filterMap_added?_searchFor, filterMap_added?_searchFor, ← List.map_append]
  simp only [ListArgs.asked, Bool.false_eq_true, if_false, if_true]

theorem touches_controls (hcontrol : field ∉ controlFields) :
    ∀ e ∈ a.edits, e.added? field = none → e.touches field = false := by
  simp only [controlFields, List.mem_cons, List.not_mem_nil, or_false, not_or] at hcontrol
  obtain ⟨hpage, hsize, horder⟩ := hcontrol
  intro e he hadded
  have searched : ∀ negated (fs : List Filter),
      e ∈ (fs.map fun f => searchFor negated f.key f.value) → e.touches field = false := by
    intro negated fs he
    obtain ⟨f, -, rfl⟩ := List.mem_map.mp he
    simp only [searchFor, Edit.added?] at hadded
    split at hadded
    next => cases hadded
    -- a search adds to its own field, so one that adds nothing is on another field
    next hkey => simp [searchFor, Edit.touches, hpage, Ne.symm hkey]
  simp only [ListArgs.edits, List.mem_append] at he
  rcases he with (((he | he) | he) | he) | he
  · exact searched false a.filters he
  · exact searched true a.excludes he
  · obtain ⟨key, -, rfl⟩ := List.mem_map.mp he
    simp [Edit.touches, hpage, horder]
  · obtain ⟨n, -, rfl⟩ := List.mem_map.mp he
    simp [Edit.touches, hpage, hsize]
  · obtain ⟨n, -, rfl⟩ := List.mem_map.mp he
    simp [Edit.touches, hpage]

/-- At the end of the edits a filter has its scalars and then those asked for, each once. -/
theorem get?_edited_filter (a : ListArgs) (pageSize : Nat) (hcontrol : field ∉ controlFields) :
    (a.edited (a.kind.scope pageSize)).get? field =
      let held := scalarsOf (parse (a.kind.scope pageSize) (a.query.getD "")) field
      Value.ofScalars? (held ++ unseen held ((a.asked field).map .text)) := by
  have hbase := Search.get?_parse_filter a.kind pageSize (a.query.getD "") hcontrol
  have hpage : field ≠ pageField := fun he => hcontrol (he ▸ List.mem_cons_self)
  show _ = Value.ofScalars? (scalarsOf _ field ++ _)
  rw [scalarsOf_eq hbase, ← filterMap_added?_edits]
  exact Search.get?_applyAll_of_adds (Search.defaults_of_not_control hcontrol) hpage
    (touches_controls hcontrol) hbase

/-! ## Controls -/

theorem get?_edited_order (pageSize : Nat) {key : String} (h : a.orderBy = some key) :
    (a.edited (a.kind.scope pageSize)).get? orderField
      = some (.one (.text (Search.orderValue key a.descending))) := by
  have hedits : a.edits = a.searches
      ++ .sort key a.descending :: (a.pageSize.toList.map .pageSize ++ a.page.toList.map .page) := by
    simp [ListArgs.edits, ListArgs.searches, h]
  have hlast : ∀ e ∈ (a.pageSize.toList.map Edit.pageSize ++ a.page.toList.map Edit.page),
      e.touches orderField = false := by
    intro e he
    rcases List.mem_append.mp he with he | he <;>
      · obtain ⟨n, -, rfl⟩ := List.mem_map.mp he
        rfl
  simp only [ListArgs.edited]
  rw [hedits, Search.get?_applyAll_last _ _ hlast]
  show (Search.resetPage _ (Dict.insert _ orderField _)).get? orderField = _
  rw [Search.get?_resetPage, if_neg (by decide), Dict.get?_insert_self]

theorem get?_edited_pageSize (pageSize : Nat) {n : Nat} (h : a.pageSize = some n) :
    (a.edited (a.kind.scope pageSize)).get? pageSizeField = some (.one (.int (max n 1))) := by
  have hedits : a.edits = (a.searches ++ a.orderBy.toList.map fun key => .sort key a.descending)
      ++ .pageSize n :: a.page.toList.map .page := by
    simp [ListArgs.edits, ListArgs.searches, h]
  have hlast : ∀ e ∈ a.page.toList.map Edit.page, e.touches pageSizeField = false := by
    intro e he
    obtain ⟨n, -, rfl⟩ := List.mem_map.mp he
    rfl
  simp only [ListArgs.edited]
  rw [hedits, Search.get?_applyAll_last _ _ hlast]
  show (Search.resetPage _ (Dict.insert _ pageSizeField _)).get? pageSizeField = _
  rw [Search.get?_resetPage, if_neg (by decide), Dict.get?_insert_self]

/-- The page is the one that is asked for; any other edit goes back to the first one. -/
theorem get?_edited_page (a : ListArgs) (pageSize : Nat) :
    (a.edited (a.kind.scope pageSize)).get? pageField =
      match a.page with
      | some n => some (.one (.int (max n 1)))
      | none => if a.edits = [] then (parse (a.kind.scope pageSize) (a.query.getD "")).get? pageField
          else some (.one (.int 1)) := by
  cases hpage : a.page with
  | some n =>
      have hedits : a.edits = (a.searches ++ (a.orderBy.toList.map fun key => .sort key a.descending)
          ++ a.pageSize.toList.map .pageSize) ++ [.page n] := by
        simp [ListArgs.edits, ListArgs.searches, hpage]
      simp only [ListArgs.edited]
      rw [hedits, Search.get?_applyAll_last _ _ fun e he => absurd he List.not_mem_nil]
      exact Dict.get?_insert_self ..
  | none =>
      -- all edits that are left go back to the first page, so the last of them does
      have hresets : ∀ e ∈ a.edits, (∀ n, e ≠ .page n) ∧ e ≠ .clear := by
        intro e he
        simp only [ListArgs.edits, hpage, List.mem_append, Option.toList_none, List.map_nil,
          List.not_mem_nil, or_false] at he
        rcases he with ((he | he) | he) | he <;>
          · obtain ⟨_, -, rfl⟩ := List.mem_map.mp he
            exact ⟨fun n => by simp [searchFor], by simp [searchFor]⟩
      simp only [ListArgs.edited]
      split
      next hnone =>
          rw [hnone]
          rfl
      next hsome =>
          obtain ⟨front, e, hlast⟩ := (List.eq_nil_or_concat a.edits).resolve_left hsome
          have hedits : a.edits = front ++ [e] := hlast.trans List.concat_eq_append
          obtain ⟨hpage, hkept⟩ := hresets e (by rw [hedits]; simp)
          rw [hedits, Search.get?_applyAll_last _ _ fun e he => absurd he List.not_mem_nil,
            e.get?_apply_pageField _ _ hpage hkept, firstPage_scope]

/-! ## What is sent -/

theorem get?_sent (size : (pageSize : Int) ≤ Text.maxNat32) (plain : Plain (a.query.getD ""))
    (h : Legible (a.kind.scope pageSize) (a.edited (a.kind.scope pageSize)) field) :
    (parse (a.kind.scope pageSize) (a.location (a.kind.scope pageSize))).get? field
      = (a.edited (a.kind.scope pageSize)).get? field :=
  h.get?_parse_update (a.kind.canonical_defaults (Search.isInt64_of_le size)).value
    (frontUnmarked_of_plain _ plain)

theorem ne_empty_of_mem_asked (accepted : a.Accepted) {value : String} (h : value ∈ a.asked field) :
    field ≠ "" := by
  have hkey : ∀ f ∈ a.filters ++ a.excludes, f.key ≠ "" := by
    intro f hf
    obtain ⟨input, hread⟩ := accepted.filters f hf
    exact key_ne_empty hread
  rcases List.mem_append.mp h with h | h
  · obtain ⟨f, hf, -⟩ := List.mem_map.mp h
    obtain ⟨hmem, hfield⟩ := List.mem_filter.mp hf
    have hfield : f.key = field := by simpa using hfield
    exact hfield ▸ hkey f (List.mem_append_left _ hmem)
  · obtain ⟨f, hf, -⟩ := List.mem_map.mp h
    obtain ⟨hmem, hfield⟩ := List.mem_filter.mp hf
    have hfield : FilterKey.negatedMark ++ f.key = field := by simpa using hfield
    rw [← hfield]
    simp [FilterKey.negatedMark]

theorem legible_edited_filter (accepted : a.Accepted) (hcontrol : field ∉ controlFields) :
    Legible (a.kind.scope pageSize) (a.edited (a.kind.scope pageSize)) field := by
  have hbase := Search.get?_parse_filter a.kind pageSize (a.query.getD "") hcontrol
  have hedited := get?_edited_filter a pageSize hcontrol
  simp only [scalarsOf_eq hbase] at hedited
  -- a filter has no default that could stand in for its scalars
  rw [← Option.or_none (o := Value.ofScalars? _), ← Search.defaults_of_not_control hcontrol]
    at hedited
  refine .of_scalars hedited fun s hs => ?_
  rcases List.mem_append.mp hs with hs | hs
  · exact stable_of_mem_said hs
  · obtain ⟨value, hvalue, rfl⟩ := List.mem_map.mp (Search.mem_unseen hs)
    exact ⟨Scalar.stable_text (Search.isInteger_of_not_control hcontrol) value,
      ne_empty_of_mem_asked accepted hvalue⟩

theorem legible_edited_page (accepted : a.Accepted) :
    Legible (a.kind.scope pageSize) (a.edited (a.kind.scope pageSize)) pageField := by
  have hinteger : (a.kind.scope pageSize).isInteger pageField = true := by
    rw [Kind.isInteger_scope]
    rfl
  have hedited := get?_edited_page a pageSize
  cases hpage : a.page with
  | some n =>
      rw [hpage] at hedited
      have hmax : Text.IsInt64 (max n 1) := Search.isInt64_max_one (accepted.page n hpage)
      exact .of_canonical (by decide) hedited
        (Value.canonical_one (Scalar.stable_int hinteger hmax))
  | none =>
      simp only [hpage] at hedited
      split at hedited
      next => exact (legible_parse _ _ _).congr hedited
      next =>
          exact .of_canonical (by decide) hedited
            (Value.canonical_one (Scalar.stable_int hinteger (by decide)))

theorem edits_eq_nil_iff (h : a.page = none) :
    a.edits = [] ↔ a.filters = [] ∧ a.excludes = [] ∧ a.orderBy = none ∧ a.pageSize = none := by
  simp [ListArgs.edits, h]

theorem currentPage_sent (size : (pageSize : Int) ≤ Text.maxNat32) (plain : Plain (a.query.getD ""))
    (accepted : a.Accepted) :
    currentPage (parse (a.kind.scope pageSize) (a.location (a.kind.scope pageSize))) =
      match a.page with
      | some n => max n 1
      | none => if a.edits = []
          then currentPage (parse (a.kind.scope pageSize) (a.query.getD "")) else 1 := by
  have hsent := (get?_sent size plain (legible_edited_page accepted)).trans
    (get?_edited_page a pageSize)
  cases hpage : a.page with
  | some n =>
      rw [hpage] at hsent
      have hpos : 0 < max n 1 := by omega
      exact Search.currentPage_of_get? hsent hpos
  | none =>
      simp only [hpage] at hsent
      split at hsent
      next hnone =>
          rw [if_pos hnone]
          exact Search.currentPage_congr hsent
      next hsome =>
          rw [if_neg hsome]
          exact Search.currentPage_of_get? hsent (by decide)

/-- A listing asks for the collection once, with what its location says. -/
theorem log_list (a : ListArgs) (pageSize : Nat) (m : Memory) :
    ∃ last, (last = [] ∨ last = [(Call.schema a.kind).record]) ∧
      (list Service.inMemory pageSize a m).2.log = m.log ++ (Call.list (.collection a.kind)
        (parse (a.kind.scope pageSize) (a.location (a.kind.scope pageSize)))).record :: last :=
  Screen.log_pagePlan ((Screen.ofKind a.kind pageSize).moveTo (a.location (a.kind.scope pageSize))) m

/-- **A listing sends every filter that it was given.**  It asks for the collection once, with a query in
which every key other than a control has the scalars that it has in the given query, and then the values
asked for that were not there, each once and in their order.  A sort key, a number of rows and a page are
sent if they are given; any edit but a page goes back to the first page, and the pieces of other lists
stay in the location. -/
theorem every_filter_is_sent (a : ListArgs) {pageSize : Nat} (size : (pageSize : Int) ≤ Text.maxNat32)
    (plain : Plain (a.query.getD "")) (accepted : a.Accepted) :
    let scope := a.kind.scope pageSize
    let given := parse scope (a.query.getD "")
    let sent := parse scope (a.location scope)
    (∀ m : Memory, ∃ last, (last = [] ∨ last = [(Call.schema a.kind).record]) ∧
      (list Service.inMemory pageSize a m).2.log
        = m.log ++ (Call.list (.collection a.kind) sent).record :: last) ∧
    (∀ key ∉ ["page", "page_size", "order_by"],
      let held := scalarsOf given key
      sent.get? key = Value.ofScalars? (held ++ unseen held ((a.asked key).map .text))) ∧
    (∀ key, a.orderBy = some key →
      sent.get? "order_by" = some (.one (.text (if a.descending then "-" ++ key else key)))) ∧
    (∀ n, a.pageSize = some n → sent.get? "page_size" = some (.one (.int (max n 1)))) ∧
    currentPage sent = (match a.page with
      | some n => max n 1
      | none =>
        if a.filters = [] ∧ a.excludes = [] ∧ a.orderBy = none ∧ a.pageSize = none
          then currentPage given else 1) ∧
    scope.foreign (a.location scope) = scope.foreign (a.query.getD "") := by
  intro scope given sent
  refine ⟨log_list a pageSize, fun key hcontrol => ?_, fun key hkey => ?_, fun n hn => ?_, ?_, ?_⟩
  · exact (get?_sent size plain (legible_edited_filter accepted hcontrol)).trans
      (get?_edited_filter a pageSize hcontrol)
  · have hinteger : scope.isInteger orderField = false := Kind.isInteger_scope a.kind pageSize _
    have hedited := get?_edited_order pageSize hkey
    exact (get?_sent size plain (.of_canonical (by decide) hedited
      (Value.canonical_one (Scalar.stable_text hinteger _)))).trans hedited
  · have hinteger : scope.isInteger pageSizeField = true := Kind.isInteger_scope a.kind pageSize _
    have hmax : Text.IsInt64 (max n 1) :=
      Search.isInt64_max_one (Search.isInt64_of_le (accepted.pageSize n hn))
    have hedited := get?_edited_pageSize pageSize hn
    exact (get?_sent size plain (.of_canonical (by decide) hedited
      (Value.canonical_one (Scalar.stable_int hinteger hmax)))).trans hedited
  · rw [currentPage_sent size plain accepted]
    cases hpage : a.page with
    | some n => rfl
    | none => simp only [edits_eq_nil_iff hpage, scope, given]
  · -- the field without a name is no control, so it is as legible as a filter
    exact foreign_update (frontUnmarked_of_plain scope plain)
      (legible_edited_filter accepted (by decide)).named

/-- Filters and excludes meet on a key and with the given query, one of them names the number of rows,
and the sort key and the number of rows are given besides. -/
theorem every_filter_is_sent_hosts :
    let a : ListArgs := {
      kind := .hosts, query := some "?team.q&host.not__name=b,c&host.page=7", page := none
      filters := [⟨"not__name", "d"⟩, ⟨"page_size", "5"⟩, ⟨"name", "x,y"⟩, ⟨"not__name", "b"⟩]
      excludes := [⟨"name", "d"⟩, ⟨"name", "e"⟩]
      pageSize := some 0, orderBy := some "id", descending := true }
    let scope := Kind.scope .hosts 20
    let sent := parse scope (a.location scope)
    sent.get? "not__name" = some (.many [.text "b", .text "c", .text "d", .text "e"]) ∧
      sent.get? "name" = some (.one (.text "x,y")) ∧
      sent.get? "order_by" = some (.one (.text "-id")) ∧
      sent.get? "page_size" = some (.one (.int 1)) ∧ currentPage sent = 1 ∧
      a.location scope
        = "team.q=&host.name=x%2Cy&host.not__name=b,c,d,e&host.order_by=-id&host.page_size=1" := by
  intro a scope sent
  have plain : Plain (a.query.getD "") := by decide +kernel
  have size : ((20 : Nat) : Int) ≤ Text.maxNat32 := by decide
  have accepted : a.Accepted := by
    refine ⟨?_, by decide, by decide⟩
    have hread : ∀ f ∈ a.filters ++ a.excludes,
        Filter.parse (f.key ++ "=" ++ f.value) = .ok f := by decide +kernel
    exact fun f hf => ⟨_, hread f hf⟩
  obtain ⟨-, hfilters, horder, hsize, hpage, -⟩ :=
    every_filter_is_sent a size plain accepted
  refine ⟨(hfilters "not__name" (by decide)).trans ?_, (hfilters "name" (by decide)).trans ?_,
    horder "id" rfl, hsize 0 rfl, hpage, ?_⟩ <;> decide +kernel

end AdminConsole.Command
