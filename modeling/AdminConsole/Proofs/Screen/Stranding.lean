/-
# `Proofs.Screen.Stranding` — what is in view after a deletion

A page is a stretch of the rows that match a query, and the rows in front of it
are on earlier pages.  A deletion moves back one page if everything in view was
selected, and it stays otherwise; the page in view is then empty exactly when no
more rows are left than belong in front of it.

If no selected row is on an earlier page, then all the rows in front are left.
They fill the page that a deletion moves back to, and one that it stays on keeps a
row of its own unless it is the first; so an empty page means that nothing is
left.  A selection may also hold rows of earlier pages.  The rows behind those move
up when they go, and that may leave the page in view empty although there are
rows in front of it (`empty_page_after_delete`).
-/
import AdminConsole.Proofs.Batch.PagingBack
import AdminConsole.Proofs.Screen.Deleting

namespace AdminConsole

open Query (Params pageField currentPage)

/-! ## Pages of rows -/

namespace Memory

/-- The number of rows in front of the page that a query asks for. -/
def offset (params : Params) : Nat :=
  match pageSize? params with
  | some size => ((currentPage params).toNat - 1) * size
  | none => 0

variable {params : Params} {rows : List Item} {keep : Item → Bool}

theorem pageSize?_pos {size : Nat} (h : pageSize? params = some size) : 0 < size := by
  simp only [pageSize?] at h
  split at h
  next n _ =>
      split at h
      next hn =>
          cases h
          omega
      next => cases h
  next => cases h

theorem window_eq_nil_iff (single : pageSize? params = none → currentPage params = 1) :
    window params rows = [] ↔ rows.length ≤ offset params := by
  simp only [window, offset]
  cases hsize : pageSize? params with
  | none =>
      simp only [single hsize, if_true]
      rw [Nat.le_zero, List.length_eq_zero_iff]
  | some size =>
      have hpos := pageSize?_pos hsize
      simp only [List.take_eq_nil_iff, List.drop_eq_nil_iff]
      omega

theorem offset_first (h : ¬1 < currentPage params) : offset params = 0 := by
  have hfirst : (currentPage params).toNat - 1 = 0 := by omega
  simp only [offset]
  split
  · rw [hfirst, Nat.zero_mul]
  · rfl

theorem single_of_window_ne_nil (h : window params rows ≠ []) :
    pageSize? params = none → currentPage params = 1 := by
  intro hnone
  simp only [window, hnone] at h
  by_cases hpage : currentPage params = 1
  · exact hpage
  · rw [if_neg hpage] at h
    exact absurd rfl h

theorem mem_drop_of_mem_window {i : Item} (h : i ∈ window params rows) :
    i ∈ rows.drop (offset params) := by
  simp only [window, offset] at h ⊢
  cases hsize : pageSize? params with
  | none =>
      simp only [hsize] at h ⊢
      split at h
      · exact h
      · exact absurd h List.not_mem_nil
  | some size =>
      simp only [hsize] at h ⊢
      exact List.mem_of_mem_take h

theorem length_filter_of_front {n : Nat} (hn : n ≤ rows.length)
    (front : ∀ i ∈ rows.take n, keep i = true) :
    (rows.filter keep).length = n + ((rows.drop n).filter keep).length := by
  have hsplit : (rows.take n).filter keep ++ (rows.drop n).filter keep = rows.filter keep := by
    rw [← List.filter_append, List.take_append_drop]
  rw [← hsplit, List.length_append, List.filter_eq_self.mpr front, List.length_take,
    Nat.min_eq_left hn]

theorem matching_filter (params : Params) (keep : Item → Bool) (rows : List Item) :
    matching params (rows.filter keep) = (matching params rows).filter keep := by
  simp only [matching]
  cases requestedIds? params with
  | none => rfl
  | some ids =>
      simp only [List.filter_filter]
      apply List.filter_congr
      intro i _
      exact Bool.and_comm ..

/-! ### Another page -/

theorem pageSize?_insert_page (params : Params) (v : Query.Value) :
    pageSize? (params.insert pageField v) = pageSize? params := by
  simp only [pageSize?]
  rw [Dict.get?_insert, if_neg (by decide)]

theorem matching_insert_page (params : Params) (v : Query.Value) (rows : List Item) :
    matching (params.insert pageField v) rows = matching params rows := by
  simp only [matching, requestedIds?]
  rw [Dict.get?_insert, if_neg (by decide)]

end Memory

/-! ## The page that a deletion leaves in view -/

namespace Screen

open Memory (offset matching)

section

variable {s : Screen} {m : Memory} {pageSize : Nat}

/-- A batch moves back one page if everything in view was selected. -/
def movesBack (s : Screen) : Bool := s.selection.isAllSelected && decide (1 < currentPage s.params)

/-- The query of the page that a batch leaves in view. -/
def leftAt (s : Screen) : Params :=
  if s.movesBack then s.params.insert pageField (.one (.int (currentPage s.params - 1)))
  else s.params

theorem later_of_movesBack (h : s.movesBack = true) : 1 < currentPage s.params := by
  simp only [movesBack, Bool.and_eq_true, decide_eq_true_eq] at h
  exact h.2

theorem leftAt_of_movesBack (h : s.movesBack = true) :
    s.leftAt = s.params.insert pageField (.one (.int (currentPage s.params - 1))) := if_pos h

theorem leftAt_of_stays (h : s.movesBack = false) : s.leftAt = s.params :=
  if_neg (Bool.eq_false_iff.mp h)

theorem currentPage_leftAt (s : Screen) : currentPage s.leftAt =
    if s.movesBack then currentPage s.params - 1 else currentPage s.params := by
  simp only [leftAt]
  split
  next hback => exact Batch.currentPage_pageBefore (later_of_movesBack hback)
  next => rfl

theorem pageSize?_leftAt (s : Screen) : Memory.pageSize? s.leftAt = Memory.pageSize? s.params := by
  simp only [leftAt]
  split
  · exact Memory.pageSize?_insert_page _ _
  · rfl

theorem matching_leftAt (s : Screen) (rows : List Item) :
    matching s.leftAt rows = matching s.params rows := by
  simp only [leftAt]
  split
  · exact Memory.matching_insert_page _ _ _
  · rfl

theorem single_leftAt (single : Memory.pageSize? s.params = none → currentPage s.params = 1) :
    Memory.pageSize? s.leftAt = none → currentPage s.leftAt = 1 := by
  intro hnone
  rw [pageSize?_leftAt] at hnone
  have hfirst := single hnone
  rw [leftAt_of_stays (by simp [movesBack, hfirst])]
  exact hfirst

/-- Fewer rows are in front of the page that a batch moves back to. -/
theorem offset_leftAt_lt (single : Memory.pageSize? s.params = none → currentPage s.params = 1)
    (h : s.movesBack = true) : offset s.leftAt < offset s.params := by
  have hlater := later_of_movesBack h
  simp only [offset]
  rw [pageSize?_leftAt, currentPage_leftAt, if_pos h]
  cases hsize : Memory.pageSize? s.params with
  | none =>
      rw [single hsize] at hlater
      omega
  | some n =>
      apply Nat.mul_lt_mul_of_pos_right _ (Memory.pageSize?_pos hsize)
      omega

theorem params_batchSettled (scope : s.scope = s.kind.scope pageSize)
    (size : (pageSize : Int) ≤ Text.maxNat32)
    (front : s.movesBack = true → s.scope.FrontUnmarked s.location)
    (call : ResourceId → Call Unit) (m : Memory) :
    (s.batchSettled call m).params = s.leftAt := by
  cases hback : s.movesBack with
  | false =>
      have hnone : Batch.previousPage? s.scope s.selection.isAllSelected s.location = none := by
        simp only [Batch.previousPage?]
        exact if_neg fun h => Bool.false_ne_true (hback.symm.trans h)
      rw [leftAt_of_stays hback]
      simp only [batchSettled, settledFor, orderFor, Screen.params]
      rw [hnone]
      rfl
  | true =>
      have paged : Search.Paged s.scope := scope ▸ Search.paged_scope s.kind size
      have hsome : Batch.previousPage? s.scope s.selection.isAllSelected s.location
          = some (Query.update s.scope s.location (Batch.pageBefore s.params)) := by
        simp only [Batch.previousPage?]
        exact if_pos hback
      rw [leftAt_of_movesBack hback]
      simp only [batchSettled, settledFor, orderFor, Screen.params]
      rw [hsome]
      exact Batch.parse_pageBefore (paged.isInteger pageField) paged.defaults.value
        (later_of_movesBack hback) (front hback)

section NoRules

variable (s : Screen) (rules : m.rules = [])

include rules

theorem refuses_eq_false (method path : String) : m.refuses method path = false := by
  simp only [Memory.refuses]
  rw [rules]
  rfl

theorem apart_of_no_rules : (s.selectedIds.filter (m.refusesDeletion s.kind)).Nodup := by
  have hnone : s.selectedIds.filter (m.refusesDeletion s.kind) = [] :=
    List.filter_eq_nil_iff.mpr fun id _ => by
      simp [Memory.refusesDeletion, refuses_eq_false rules]
  rw [hnone]
  exact List.nodup_nil

/-- Without rules, a deletion shows the page that is kept once the selected rows are gone. -/
theorem page_delete :
    (s.delete (fun _ => Service.inMemory) m).1.1.page
      = (s.delete (fun _ => Service.inMemory) m).2.pageFor
          (s.batchSettled (.destroy s.kind) m) := by
  let answered := s.batchAnswered (.destroy s.kind) m
  let settled := s.batchSettled (.destroy s.kind) m
  have hdeleted : Deleted s.kind s.selectedIds m answered :=
    (carryOut_deletions s.kind (apart_of_no_rules s rules)).2
  have hserved : ∀ method path, method ≠ "DELETE" → answered.refuses method path = false := by
    intro method path hmethod
    rw [← Memory.isSome_refusal?, hdeleted.refusals method path hmethod, Memory.isSome_refusal?]
    exact refuses_eq_false rules method path
  have hclear : answered.refusesPage settled = false := by
    simp only [Memory.refusesPage]
    rw [hserved "GET" _ (by decide), hserved "OPTIONS" _ (by decide)]
    rfl
  rw [(delete_ends s m).1, (sameData_delete s m).pageFor,
    (carryOut_pagePlan settled answered).1 hclear, fetched_ok]
  rfl

theorem rowsAt_delete_of_no_rules (path : String) :
    ∃ keep : Item → Bool, (∀ i : Item, i.id ∉ s.selectedIds → keep i = true) ∧
      (s.delete (fun _ => Service.inMemory) m).2.rowsAt path = (m.rowsAt path).filter keep := by
  have hrows := rowsAt_delete s (apart_of_no_rules s rules) path
  by_cases hpath : path = (Endpoint.collection s.kind).path
  · rw [if_pos hpath] at hrows
    refine ⟨_, ?_, hrows⟩
    intro i hi
    have hout : i.id ∉ s.selectedIds.filter fun id => !m.refusesDeletion s.kind id := fun hmem =>
      hi (List.mem_filter.mp hmem).1
    simp only [List.contains_eq_mem, Bool.not_eq_true', decide_eq_false_iff_not]
    exact hout
  · rw [if_neg hpath] at hrows
    exact ⟨fun _ => true, fun _ _ => rfl, hrows.trans (List.filter_eq_self.mpr fun _ _ => rfl).symm⟩

end NoRules

theorem exists_unselected (shown : s.selection.items ≠ [])
    (h : s.selection.isAllSelected = false) :
    ∃ i ∈ s.selection.items, i.id ∉ s.selectedIds := by
  have hany : s.selection.items.isEmpty = false := by simpa using shown
  simp only [Selection.isAllSelected, hany, Bool.not_false, Bool.true_and] at h
  obtain ⟨i, hi, hunselected⟩ := List.all_eq_false.mp h
  refine ⟨i, hi, fun hmem => hunselected ?_⟩
  obtain ⟨j, hj, hkey⟩ := List.mem_map.mp hmem
  exact List.any_eq_true.mpr ⟨j, hj, decide_eq_true hkey⟩

/-- Without a fixed count, a page is the stretch of matching rows that is asked for. -/
theorem pageFor_of_no_count (counts : m.counts.get? s.endpoint.path = none) :
    (m.pageFor s).rows
        = Memory.window s.params (matching s.params (m.rowsAt s.endpoint.path)) ∧
      (m.pageFor s).count = (matching s.params (m.rowsAt s.endpoint.path)).length := by
  simp only [Memory.pageFor, Memory.listing]
  rw [counts]
  exact ⟨rfl, rfl⟩

theorem shown_delete (scope : s.scope = s.kind.scope pageSize)
    (size : (pageSize : Int) ≤ Text.maxNat32) (rules : m.rules = [])
    (counts : m.counts.get? s.endpoint.path = none)
    (front : s.movesBack = true → s.scope.FrontUnmarked s.location) :
    let run := s.delete (fun _ => Service.inMemory) m
    let left := matching s.params (run.2.rowsAt s.endpoint.path)
    run.1.1.params = s.leftAt ∧ run.1.1.page.rows = Memory.window s.leftAt left ∧
      run.1.1.page.count = left.length := by
  intro run left
  have hquery := params_batchSettled scope size front (.destroy s.kind) m
  have hcounts : run.2.counts.get? (s.batchSettled (.destroy s.kind) m).endpoint.path = none := by
    rw [counts_delete s (apart_of_no_rules s rules)]
    exact counts
  obtain ⟨hshown, hcounted⟩ := pageFor_of_no_count hcounts
  rw [← page_delete s rules, hquery, matching_leftAt] at hshown hcounted
  exact ⟨(params_delete s m).trans hquery, hshown, hcounted⟩

section Left

variable {before : List Item} {keep : Item → Bool}
  (inView : s.selection.items = Memory.window s.params before) (shown : s.selection.items ≠ [])
  (hkeep : ∀ i : Item, i.id ∉ s.selectedIds → keep i = true)

include inView shown hkeep

theorem exists_kept_in_view (stays : s.movesBack = false) (later : 1 < currentPage s.params) :
    0 < ((before.drop (offset s.params)).filter keep).length := by
  have hnot : s.selection.isAllSelected = false := by
    simpa [movesBack, later] using stays
  obtain ⟨i, hi, hunselected⟩ := exists_unselected shown hnot
  rw [inView] at hi
  exact List.length_pos_of_mem
    (List.mem_filter.mpr ⟨Memory.mem_drop_of_mem_window hi, hkeep i hunselected⟩)

theorem nothing_left (front : ∀ i ∈ before.take (offset s.params), i.id ∉ s.selectedIds)
    (few : (before.filter keep).length ≤ offset s.leftAt) : before.filter keep = [] := by
  have hsingle := Memory.single_of_window_ne_nil (inView ▸ shown)
  have hbefore : offset s.params < before.length := by
    rw [← Nat.not_le, ← Memory.window_eq_nil_iff hsingle, ← inView]
    exact shown
  have hlength := Memory.length_filter_of_front (Nat.le_of_lt hbefore)
    fun i hi => hkeep i (front i hi)
  cases hback : s.movesBack with
  | true =>
      -- the rows that were in front fill the page that is gone back to
      have hless := offset_leftAt_lt hsingle hback
      omega
  | false =>
      rw [leftAt_of_stays hback] at few
      by_cases hlater : 1 < currentPage s.params
      · have hsome := exists_kept_in_view inView shown hkeep hback hlater
        omega
      · rw [Memory.offset_first hlater] at few
        exact List.length_eq_zero_iff.mp (Nat.le_zero.mp few)

end Left

/-- **A deletion leaves an empty page in view only when too few rows are left.**  Let no rule refuse
anything and no count be fixed, and let the page in view be the one that the service keeps, with a row
at least.  After a deletion of any selection the screen is one page back if everything in view was
selected and on the same page otherwise; it counts the matching rows that are left, and it shows none
exactly when they are no more than belong in front of the page.  If no row of an earlier page was
selected, then an empty page means that no matching row is left. -/
theorem empty_page_after_delete (s : Screen) (m : Memory) {pageSize : Nat}
    (scope : s.scope = s.kind.scope pageSize) (size : (pageSize : Int) ≤ Text.maxNat32)
    (rules : m.rules = []) (counts : m.counts.get? s.endpoint.path = none)
    (inView : s.selection.items = (m.pageFor s).rows) (shown : s.selection.items ≠ [])
    (front : s.movesBack = true → s.scope.FrontUnmarked s.location) :
    let run := s.delete (fun _ => Service.inMemory) m
    let after := run.1.1
    let left := matching s.params (run.2.rowsAt s.endpoint.path)
    currentPage after.params = (if s.movesBack then currentPage s.params - 1
      else currentPage s.params) ∧
    after.page.count = left.length ∧
    (after.page.rows = [] ↔ left.length ≤ offset after.params) ∧
    ((∀ i ∈ (matching s.params (m.rowsAt s.endpoint.path)).take (offset s.params),
        i.id ∉ s.selectedIds) →
      after.page.rows = [] → after.page.count = 0) := by
  intro run after left
  let before := matching s.params (m.rowsAt s.endpoint.path)
  have hview : s.selection.items = Memory.window s.params before :=
    inView.trans (pageFor_of_no_count counts).1
  have hsingle := Memory.single_of_window_ne_nil (hview ▸ shown)
  obtain ⟨hquery, hrows, hcount⟩ := shown_delete scope size rules counts front
  have hempty : after.page.rows = [] ↔ left.length ≤ offset after.params := by
    rw [hquery, hrows]
    exact Memory.window_eq_nil_iff (single_leftAt hsingle)
  refine ⟨by rw [hquery, currentPage_leftAt], hcount, hempty, ?_⟩
  intro hfront hnone
  obtain ⟨keep, hkeep, hkept⟩ := rowsAt_delete_of_no_rules s rules s.endpoint.path
  have hleft : left = before.filter keep := by
    simp only [left, before]
    rw [hkept, Memory.matching_filter]
  have hfew := hempty.mp hnone
  rw [hquery, hleft] at hfew
  rw [hcount, List.length_eq_zero_iff]
  exact hleft.trans (nothing_left hview shown hkeep hfront hfew)

end

/-- Everything on the second of three pages is selected and deleted. -/
theorem empty_page_after_delete_hosts :
    let m : Memory := { Memory.empty with
      rows := Dict.ofList [("hosts/", [.bare 1, .bare 2, .bare 3, .bare 4, .bare 5])]
      holds := Dict.ofList [("DELETE", 1)] }
    let here := (ofKind .hosts 20).moveTo "?user.q&host.page=2&host.page_size=2"
    let loaded := here.fetched (.ok (m.pageFor here))
    let s := { loaded with selection := loaded.selection.selectAll true }
    let after := (s.delete (fun _ => Service.inMemory) m).1.1
    currentPage after.params = 1 ∧ (after.page.rows = [] → after.page.count = 0) := by
  intro m here loaded s after
  have place : SamePlace here s := by
    obtain ⟨hkind, hendpoint, hscope, hlocation⟩ := samePlace_fetched here (.ok (m.pageFor here))
    exact ⟨hkind, hendpoint, hscope, hlocation⟩
  have inView : s.selection.items = (m.pageFor s).rows := by
    have hloaded : loaded.selection.items = (m.pageFor here).rows := items_fetched here _
    rw [place.pageFor, ← hloaded]
    rfl
  have shown : s.selection.items ≠ [] := by
    intro h
    have hids : s.selection.items.map Item.id = [3, 4] := by decide +kernel
    rw [h] at hids
    cases hids
  have front : s.movesBack = true → s.scope.FrontUnmarked s.location := by decide +kernel
  obtain ⟨hpage, -, -, hnone⟩ :=
    empty_page_after_delete s m rfl (by decide) rfl rfl inView shown front
  refine ⟨hpage.trans (by decide +kernel), hnone ?_⟩
  decide +kernel

/-- The only host of a last page is deleted together with one of the page in front, and the screen is
left on an empty page although a host remains; and so it is where the piece that a move back puts in
front names a page once its mark is gone. -/
theorem stranded_by_delete :
    let m : Memory := { Memory.empty with
      rows := Dict.ofList [("hosts/", [.bare 1, .bare 2, .bare 3])] }
    let start := Run.initial (ofKind .hosts 20) m
    let selected := start.after [.navigate "host.page=2&host.page_size=1", .selectRow 0,
      .edit (.page 3), .selectRow 0]
    let marked := start.after [.navigate "host.page=2&host.page_size=2&?host.page=9",
      .selectAll true]
    (selected.screen.page.rows.map Item.id = [3] ∧ selected.screen.selectedIds = [2, 3] ∧
      (selected.step .delete).1.screen.page.rows.map Item.id = [] ∧
      (selected.step .delete).1.screen.page.count = 1) ∧
    marked.screen.page.rows.map Item.id = [3] ∧ marked.screen.selectedIds = [3] ∧
      (marked.step .delete).1.screen.page.rows.map Item.id = [] ∧
      (marked.step .delete).1.screen.page.count = 2 := by
  decide +kernel

end Screen

end AdminConsole
