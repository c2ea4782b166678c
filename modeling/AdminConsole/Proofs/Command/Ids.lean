/-
# `Proofs.Command.Ids` — resources asked for by their numbers

A removal writes its numbers in ascending order into one filter value, and asks
for a page of as many rows.  The value is read back number by number, because no
number has a comma in its text and different numbers have different texts; the
query survives the way through the location; and so the service lists the first
rows that have one of the numbers, at most as many as there are numbers
(`results_locationOfIds`).

That bound is what makes a count decide.  When every number occurs among the
listed rows, there is no room left for a second row of a number, nor for a row
of any other (`perm_of_covered`).
-/
import AdminConsole.Api.Memory
import AdminConsole.Proofs.Search.Edits
import Mathlib.Data.List.Perm.Subperm

namespace AdminConsole.Command

open Query (Params Scope Value Scalar parse)

/-! ## Each number once -/

section Distinct

variable {n k : ResourceId} {ids : List ResourceId}

theorem mem_insertId : k ∈ insertId n ids ↔ k = n ∨ k ∈ ids := by
  induction ids with
  | nil => exact List.mem_cons
  | cons i ids ih =>
      simp only [insertId]
      split
      · exact List.mem_cons
      · split
        next he => simp [he]
        next =>
            rw [List.mem_cons, ih, List.mem_cons]
            exact or_left_comm

theorem pairwise_insertId (h : ids.Pairwise (· < ·)) : (insertId n ids).Pairwise (· < ·) := by
  induction ids with
  | nil => exact List.pairwise_singleton _ n
  | cons i ids ih =>
      obtain ⟨hlt, htail⟩ := List.pairwise_cons.mp h
      simp only [insertId]
      split
      next hn =>
          refine List.pairwise_cons.mpr ⟨fun k hk => ?_, h⟩
          rcases List.mem_cons.mp hk with rfl | hk
          · exact hn
          · exact Int.lt_trans hn (hlt k hk)
      next hn =>
          split
          next => exact h
          next hne =>
              refine List.pairwise_cons.mpr ⟨fun k hk => ?_, ih htail⟩
              rcases mem_insertId.mp hk with rfl | hk
              · exact Int.lt_iff_le_and_ne.mpr ⟨Int.not_lt.mp hn, Ne.symm hne⟩
              · exact hlt k hk

@[simp] theorem mem_distinctIds : k ∈ distinctIds ids ↔ k ∈ ids := by
  simp only [distinctIds]
  induction ids with
  | nil => exact Iff.rfl
  | cons i ids ih => rw [List.foldr_cons, mem_insertId, ih, List.mem_cons]

theorem pairwise_distinctIds (ids : List ResourceId) : (distinctIds ids).Pairwise (· < ·) := by
  simp only [distinctIds]
  induction ids with
  | nil => exact List.Pairwise.nil
  | cons i ids ih => exact pairwise_insertId ih

theorem nodup_distinctIds (ids : List ResourceId) : (distinctIds ids).Nodup :=
  (pairwise_distinctIds ids).imp fun hlt he => Int.ne_of_lt hlt he

end Distinct

/-! ## Numbers as a filter value -/

section Joined

variable {n : ResourceId} {ids : List ResourceId}

theorem toString_ne_empty (n : ResourceId) : toString n ≠ "" := by
  intro h
  have hread : Text.readInteger (min n 0) (max n 0) (toString n).toList = .ok n :=
    Text.readInteger_toString (by omega) (by omega) (by omega)
  rw [h] at hread
  cases hread

theorem not_mem_comma (n : ResourceId) : ',' ∉ (toString n).toList := by
  intro h
  rcases Text.mem_toString h with he | hd
  · exact absurd he (by decide)
  · exact absurd hd (by decide)

theorem contains_joinIds (n : ResourceId) (ids : List ResourceId) :
    ((Text.splitAll ',' (joinIds "," ids).toList).map String.ofList).contains (toString n)
      = decide (n ∈ ids) := by
  simp only [joinIds]
  rw [Text.toList_joinText]
  cases ids with
  | nil =>
      show List.contains [""] (toString n) = false
      rw [List.contains_cons, List.contains_nil, Bool.or_false]
      exact beq_false_of_ne (toString_ne_empty n)
  | cons i ids =>
      have hpieces : Text.splitAll ','
          (Text.join [','] (((i :: ids).map toString).map String.toList))
            = ((i :: ids).map toString).map String.toList := by
        refine Text.splitAll_join (by simp) fun p hp => ?_
        obtain ⟨s, hs, rfl⟩ := List.mem_map.mp hp
        obtain ⟨k, -, rfl⟩ := List.mem_map.mp hs
        exact not_mem_comma k
      have hback : (((i :: ids).map toString).map String.toList).map String.ofList
          = (i :: ids).map toString := by
        simp [Function.comp_def]
      show List.contains ((Text.splitAll ',' (Text.join [','] _)).map String.ofList) _ = _
      rw [hpieces, hback, Bool.eq_iff_iff, List.contains_iff_mem, decide_eq_true_iff]
      constructor
      · intro h
        obtain ⟨k, hk, he⟩ := List.mem_map.mp h
        exact Text.toString_injective he ▸ hk
      · exact fun h => List.mem_map.mpr ⟨n, h, rfl⟩

end Joined

/-! ## The query -/

/-- A query that asks for the first page of the resources of some numbers, with room for all. -/
structure AsksFor (ids : List ResourceId) (params : Params) : Prop where
  filter : params.get? idsField = some (.one (.text (joinIds "," ids)))
  room : params.get? Query.pageSizeField = some (.one (.int (max ids.length 1)))
  page : params.get? Query.pageField = some (.one (.int 1))

theorem get?_parse_empty (scope : Scope) (field : String) :
    (parse scope "").get? field = scope.defaults.get? field := by
  show (scope.defaults.overlay Dict.empty).get? field = _
  rw [Dict.get?_overlay]
  rfl

theorem firstPage_scope (k : Kind) (pageSize : Nat) :
    Search.firstPage (k.scope pageSize) = .one (.int 1) := by
  show ((k.defaults pageSize).get? Query.pageField).getD _ = _
  rw [Kind.get?_defaults]
  rfl

theorem field_searchFor (negated : Bool) (key value : String) :
    (⟨⟨false, negated, key, none⟩, value⟩ : Search.Term).field
      = if negated then Search.FilterKey.negatedMark ++ key else key := by
  cases negated with
  | false => exact (String.append_empty).trans String.empty_append
  | true => exact String.append_empty

theorem searched_idsField (k : Kind) (pageSize : Nat) :
    Search.searched (k.scope pageSize) (parse (k.scope pageSize) "") idsField = [] := by
  have hsilent : (parse (k.scope pageSize) "").get? idsField = none := by
    rw [get?_parse_empty]
    show (k.defaults pageSize).get? idsField = none
    rw [Kind.get?_defaults]
    rfl
  simp only [Search.searched]
  rw [hsilent]

theorem plain_empty : Query.Plain "" := by decide

/-- The location of numbers is read as the query for them. -/
theorem asksFor_locationOfIds (k : Kind) {pageSize : Nat} (size : (pageSize : Int) ≤ Text.maxNat32)
    {ids : List ResourceId} (fits : (ids.length : Int) ≤ Text.maxNat32) :
    AsksFor ids (parse (k.scope pageSize) (locationOfIds (k.scope pageSize) ids)) := by
  have offered : ∀ e ∈ [searchFor false idsField (joinIds "," ids), .pageSize ids.length],
      e.Offered := by
    intro e he
    rcases List.mem_pair.mp he with rfl | rfl
    · show Search.Term.field _ ≠ "" ∧ Search.Term.field _ ≠ Query.pageSizeField
      rw [field_searchFor, if_neg Bool.false_ne_true]
      exact ⟨by decide, by decide⟩
    · exact fits
  have hread := Search.parse_relocateAll (Search.paged_scope k size) plain_empty offered
  have hparams : parse (k.scope pageSize) (locationOfIds (k.scope pageSize) ids)
      = ((((parse (k.scope pageSize) "").insert idsField (.one (.text (joinIds "," ids)))).insert
          Query.pageField (.one (.int 1))).insert Query.pageSizeField
            (.one (.int (max ids.length 1)))).insert Query.pageField (.one (.int 1)) := by
    simp only [locationOfIds]
    rw [hread]
    show Search.withPageSize _ (Search.withSearch _ _ _) _ = _
    simp only [Search.withPageSize, Search.withSearch, Search.resetPage]
    rw [field_searchFor, if_neg Bool.false_ne_true, searched_idsField, firstPage_scope]
    rfl
  rw [hparams]
  constructor <;> simp [idsField, Query.pageField, Query.pageSizeField]

/-! ## The rows -/

/-- The rows that a service lists when it is asked for numbers: the first that have one of them,
with room for as many as there are numbers, and none where a count is fixed. -/
def listedRows (m : Memory) (path : String) (ids : List ResourceId) : List Item :=
  match m.counts.get? path with
  | some _ => []
  | none => ((m.rowsAt path).filter fun i => i.id ∈ ids).take ids.length

section Rows

variable {ids : List ResourceId} {params : Params}

theorem matching_of_asksFor (h : AsksFor ids params) (rows : List Item) :
    Memory.matching params rows = rows.filter fun i => i.id ∈ ids := by
  have hfield : params.get? "id__in" = some (.one (.text (joinIds "," ids))) := h.filter
  simp only [Memory.matching, Memory.requestedIds?]
  rw [hfield]
  simp only [Option.map_some, Value.scalars, List.flatMap_singleton, Scalar.toText]
  exact List.filter_congr fun i _ => contains_joinIds i.id ids

theorem window_of_asksFor (h : AsksFor ids params) (rows : List Item) :
    Memory.window params rows = rows.take (max ids.length 1) := by
  have hpage : Query.currentPage params = 1 := by
    simp only [Query.currentPage]
    rw [h.page]
    rfl
  have hsize : Memory.pageSize? params = some (max ids.length 1) := by
    simp only [Memory.pageSize?]
    have hpos : (0 : Int) < max (ids.length : Int) 1 := by omega
    rw [h.room]
    simp only [Option.bind_some, Value.int?, hpos, if_true, Option.some.injEq]
    omega
  simp only [Memory.window]
  rw [hsize, hpage]
  simp

theorem results_of_asksFor (h : AsksFor ids params) (m : Memory) (path : String) :
    (m.listing path params).results = listedRows m path ids := by
  simp only [Memory.listing, listedRows]
  cases m.counts.get? path with
  | some n => rfl
  | none =>
      show Memory.window params (Memory.matching params (m.rowsAt path)) = _
      rw [matching_of_asksFor h, window_of_asksFor h]
      cases ids with
      | nil => simp
      | cons i ids =>
          have hmax : max (i :: ids).length 1 = (i :: ids).length :=
            Nat.max_eq_left (Nat.succ_pos _)
          rw [hmax]

end Rows

/-! ## Counting -/

theorem length_listedRows (m : Memory) (path : String) (ids : List ResourceId) :
    (listedRows m path ids).length ≤ ids.length := by
  simp only [listedRows]
  split
  · exact Nat.zero_le _
  · exact List.length_take_le _ _

/-- If all numbers occur among the listed rows, then those are all the rows, each number once. -/
theorem perm_of_covered {m : Memory} {path : String} {ids : List ResourceId} (hnodup : ids.Nodup)
    (hcovered : ∀ id ∈ ids, ∃ i ∈ listedRows m path ids, i.id = id) :
    ((listedRows m path ids).map Item.id).Perm ids := by
  have hsubset : ids ⊆ (listedRows m path ids).map Item.id :=
    fun id hid => List.mem_map.mpr (hcovered id hid)
  have hsubperm := List.subperm_of_subset hnodup hsubset
  refine (hsubperm.perm_of_length_le ?_).symm
  rw [List.length_map]
  exact length_listedRows m path ids

end AdminConsole.Command
