/-
# `Proofs.Screen.Deleting` — a deletion accounts for every row

The deletions of a batch are made at once and answered in whatever order they are
let go.  What becomes of one does not depend on that order, so the service owes
each of the selected rows one answer (`owing_deletions`), and a batch has the
outcomes that were owed at its start (`carryOut_deletions`).

The rest of the operation is its follow-up.  That lists the endpoint once, at the
location where the screen is left, and besides asks for the schema at most
(`log_pagePlan`).
-/
import AdminConsole.Proofs.Api.Deletion
import AdminConsole.Proofs.Screen.InStep
import AdminConsole.Proofs.Screen.Owed

namespace AdminConsole

open Batch (ItemOutcome)

namespace Screen

variable {k : Kind} {m : Memory} {ids : List ResourceId}

/-! ## The deletions of a batch -/

/-- What a service that was `m₀` owes to the deletions of a batch: no refused row is left twice, and
the other rows of the batch have been dealt with. -/
def OwesDeletions (k : Kind) (m₀ : Memory) (ids left : List ResourceId) (m : Memory) : Prop :=
  (left.filter (m₀.refusesDeletion k)).Nodup ∧
    ∃ done, (done ++ left).Perm ids ∧ Memory.DealtWith k m₀ done left m

theorem owing_deletions (k : Kind) (m₀ : Memory) (ids : List ResourceId) :
    Owing (.destroy k) (m₀.deletionReply k) (OwesDeletions k m₀ ids) where
  perm := by
    rintro left left' m hperm ⟨hnodup, done, hall, h⟩
    refine ⟨(hperm.filter _).nodup_iff.mp hnodup, done, ?_, ?_⟩
    · exact (hperm.symm.append_left done).trans hall
    · exact ⟨h.rows, h.counts, h.schemas, fun id hid => h.owed id (hperm.mem_iff.mpr hid), h.others⟩
  note := by
    rintro left m r ⟨hnodup, done, hall, h⟩
    exact ⟨hnodup, done, hall, h.rows, h.counts, h.schemas, h.owed, h.others⟩
  hold := by
    rintro left m method ⟨hnodup, done, hall, h⟩
    exact ⟨hnodup, done, hall, h.rows, h.counts, h.schemas, h.owed, h.others⟩
  release := by
    rintro left m m' ⟨hnodup, done, hall, h⟩ hrelease
    obtain ⟨_, _, -, rfl⟩ := Memory.release?_eq_some hrelease
    exact ⟨hnodup, done, hall, h.rows, h.counts, h.schemas, h.owed, h.others⟩
  answer := by
    rintro id left m ⟨hnodup, done, hall, h⟩
    have apart : m₀.refusesDeletion k id = true → id ∉ left := by
      intro hid hmem
      rw [List.filter_cons, if_pos hid] at hnodup
      exact (List.nodup_cons.mp hnodup).1 (List.mem_filter.mpr ⟨hmem, hid⟩)
    obtain ⟨hreply, hdealt⟩ := h.answer apart
    refine ⟨hreply, ?_, id :: done, List.perm_middle.symm.trans hall, hdealt⟩
    exact hnodup.sublist ((List.sublist_cons_self id left).filter _)

/-- A service after the deletions of a batch: their rows are gone unless they were refused, and
nothing else has changed. -/
structure Deleted (k : Kind) (ids : List ResourceId) (m m' : Memory) : Prop where
  rows : ∀ path, m'.rows.get? path = if path = (Endpoint.collection k).path
    then (m.rows.get? path).map (Memory.withoutRows (ids.filter fun id => !m.refusesDeletion k id))
    else m.rows.get? path
  counts : m'.counts = m.counts
  schemas : m'.schemas = m.schemas
  refusals : ∀ method path, method ≠ "DELETE" → m'.refusal? method path = m.refusal? method path

/-- The deletions of a batch have the outcomes that were owed to them at its start. -/
theorem carryOut_deletions (k : Kind) {ids : List ResourceId} {m : Memory}
    (apart : (ids.filter (m.refusesDeletion k)).Nodup) :
    (Service.carryOutIn (fanOut (.destroy k) ids) m).1
        = .ok (ids.map (owedOutcome (m.deletionReply k))) ∧
      Deleted k ids m (Service.carryOutIn (fanOut (.destroy k) ids) m).2 := by
  have howed : OwesDeletions k m ids ids m :=
    ⟨apart, [], List.Perm.refl ids, Memory.DealtWith.begin k m ids⟩
  obtain ⟨hreply, -, done, hall, h⟩ := carryOut_owed (owing_deletions k m ids) howed
  rw [List.append_nil] at hall
  refine ⟨hreply, ?_, h.counts, h.schemas, h.others⟩
  intro path
  have hgone : Memory.withoutRows (done.filter fun id => !m.refusesDeletion k id)
      = Memory.withoutRows (ids.filter fun id => !m.refusesDeletion k id) := by
    funext rows
    exact Memory.withoutRows_congr (fun id => (hall.filter _).mem_iff) rows
  rw [h.rows path, hgone]

/-! ## Both parts of the result -/

theorem owedOutcome_deletion (m : Memory) (k : Kind) (id : ResourceId) :
    (m.refusesDeletion k id = true ∧ ∃ e, owedOutcome (m.deletionReply k) id = ⟨id, some e⟩) ∨
      (m.refusesDeletion k id = false ∧ owedOutcome (m.deletionReply k) id = ⟨id, none⟩) := by
  have hrefuses := Memory.isSome_refusal? m "DELETE" (Endpoint.detail k id).path
  simp only [owedOutcome, Memory.deletionReply, Memory.refusesDeletion]
  cases h : m.refusal? "DELETE" (Endpoint.detail k id).path with
  | some e =>
      rw [h] at hrefuses
      exact .inl ⟨hrefuses.symm, e, rfl⟩
  | none =>
      rw [h] at hrefuses
      exact .inr ⟨hrefuses.symm, rfl⟩

theorem succeededIds_deletions (m : Memory) (k : Kind) (ids : List ResourceId) :
    Batch.succeededIds (Batch.check (ids.map (owedOutcome (m.deletionReply k))))
      = ids.filter fun id => !m.refusesDeletion k id := by
  rw [Batch.succeededIds_check]
  induction ids with
  | nil => rfl
  | cons id ids ih =>
      rcases owedOutcome_deletion m k id with ⟨hid, e, h⟩ | ⟨hid, h⟩
      · simp [h, hid, ih]
      · simp [h, hid, ih]

theorem failedIds_deletions (m : Memory) (k : Kind) (ids : List ResourceId) :
    Batch.failedIds (Batch.check (ids.map (owedOutcome (m.deletionReply k))))
      = ids.filter (m.refusesDeletion k) := by
  rw [Batch.failedIds_check]
  induction ids with
  | nil => rfl
  | cons id ids ih =>
      rcases owedOutcome_deletion m k id with ⟨hid, e, h⟩ | ⟨hid, h⟩
      · rw [List.map_cons, h, List.filter_cons_of_pos hid]
        exact congrArg (List.cons id) ih
      · rw [List.map_cons, h, List.filter_cons_of_neg (by simp [hid])]
        exact ih

/-! ## The follow-up -/

theorem start_both_calls {α β : Type} (c : Call α) (d : Call β) (m : Memory) :
    ∃ last, (last = [] ∨ last = [d.record]) ∧
      (Flight.start false (.both (.call c) (.call d)) m).2.log = m.log ++ c.record :: last ∧
      ∀ log, (Flight.start false (.both (.call c) (.call d)) m).1.Within (Contract.silent log) := by
  simp only [Flight.start]
  split
  · exact ⟨[], .inl rfl, log_startCall c m, fun _ => trivial⟩
  · refine ⟨[d.record], .inr rfl, ?_, ?_⟩
    · rw [log_startCall, log_startCall, List.append_assoc]
      rfl
    · intro log
      exact Flight.within_pair (silent_startCall c m log) (silent_startCall d _ log) true

theorem start_map {α β : Type} (f : α → β) (p : Plan α) (m : Memory) :
    (Flight.start false (p.map f) m).2 = (Flight.start false p m).2 ∧
      ∀ log, (Flight.start false p m).1.Within (Contract.silent log) →
        (Flight.start false (p.map f) m).1.Within (Contract.silent log) := by
  simp only [Plan.map, Flight.start]
  split
  · exact ⟨rfl, fun _ _ => trivial⟩
  · exact ⟨rfl, fun _ _ => trivial⟩
  · exact ⟨rfl, fun _ hsilent => ⟨hsilent, fun _ => trivial⟩⟩

/-- A page is asked for by listing the endpoint, and then by the schema at most. -/
theorem log_pagePlan (s : Screen) (m : Memory) :
    ∃ last, (last = [] ∨ last = [(Call.schema s.kind).record]) ∧
      (Service.carryOutIn s.pagePlan m).2.log
        = m.log ++ (Call.list s.endpoint s.params).record :: last := by
  obtain ⟨last, hlast, hlog, hsilent⟩ :=
    start_both_calls (.list s.endpoint s.params) (.schema s.kind) m
  have hsame : (Flight.launch s.pagePlan m).2 = _ := (start_map _ _ m).1
  have hwaits : ∀ log, (Flight.launch s.pagePlan m).1.Within (Contract.silent log) := fun log =>
    (start_map _ _ m).2 log (hsilent log)
  refine ⟨last, hlast, ?_⟩
  rw [log_carryOut hwaits, hsame, hlog]

/-! ## The whole operation -/

theorem samePlace_fetched (s : Screen) (reply : Except ApiError Page) :
    SamePlace s (s.fetched reply) := by
  cases reply with
  | ok page => rw [fetched_ok]; exact ⟨rfl, rfl, rfl, rfl⟩
  | error e => rw [fetched_error]; exact ⟨rfl, rfl, rfl, rfl⟩

theorem samePlace_unselected (s : Screen) : SamePlace s s.unselected := ⟨rfl, rfl, rfl, rfl⟩

theorem items_fetched (s : Screen) (page : Page) :
    (s.fetched (.ok page)).selection.items = page.rows := by
  rw [fetched_ok]
  rfl

/-- What a batch is started with, and what becomes of its resources. -/
def orderFor (s : Screen) (call : ResourceId → Call Unit) (m : Memory) : Batch.Order ResourceId :=
  ⟨outcomesOf s.selectedIds (Service.carryOutIn (fanOut call s.selectedIds) m).1,
    s.selection.isAllSelected, s.location⟩

/-- The service once the calls of a batch have been answered. -/
def batchAnswered (s : Screen) (call : ResourceId → Call Unit) (m : Memory) : Memory :=
  (Service.carryOutIn (fanOut call s.selectedIds) m).2

/-- The screen on which the fetch after a batch begins. -/
def batchSettled (s : Screen) (call : ResourceId → Call Unit) (m : Memory) : Screen :=
  ({ s with deletion := s.deletion.start } : Screen).settledFor (s.orderFor call m)

theorem followUp_inMemory (s : Screen) (order : Batch.Order ResourceId) (m : Memory) :
    followUp (fun _ => Service.inMemory) s (order.next s.scope) m =
      let back := Batch.previousPage? s.scope order.allSelected order.search
      let moved := s.moveTo (back.getD s.location)
      let page := Service.carryOutIn moved.pagePlan m
      (moved.fetched page.1, page.2) := by
  simp only [Batch.Order.next]
  cases Batch.previousPage? s.scope order.allSelected order.search with
  | some search => rfl
  | none => rfl

theorem runBatch_ends (s : Screen) (call : ResourceId → Call Unit) (m : Memory) :
    runBatch (fun _ => Service.inMemory) s call m =
      let settled := s.batchSettled call m
      let page := Service.carryOutIn settled.pagePlan (s.batchAnswered call m)
      (((settled.fetched page.1).unselected, (s.orderFor call m).ending s.scope), page.2) := by
  have hrun : runBatch (fun _ => Service.inMemory) s call m =
      (let settled := ({ s with deletion := s.deletion.start } : Screen).settleBatch
          (s.orderFor call m)
        let followed := followUp (fun _ => Service.inMemory) settled.1 settled.2.followUp
          (s.batchAnswered call m)
        ((followed.1.unselected, settled.2), followed.2)) := rfl
  have hfollow := followUp_inMemory
    { s with deletion := s.deletion.start.accept (Batch.check (s.orderFor call m).outcomes) }
    (s.orderFor call m) (s.batchAnswered call m)
  rw [hrun, settleBatch_eq]
  simp only [Batch.Order.ending]
  rw [hfollow]
  rfl

section Delete

variable (s : Screen) {m : Memory}

theorem delete_ends (m : Memory) :
    let run := s.delete (fun _ => Service.inMemory) m
    let settled := s.batchSettled (.destroy s.kind) m
    let page := Service.carryOutIn settled.pagePlan (s.batchAnswered (.destroy s.kind) m)
    run.1.1 = (settled.fetched page.1).unselected ∧
      run.1.2.result = Batch.check (s.orderFor (.destroy s.kind) m).outcomes ∧
      run.2 = page.2 := by
  have hrun : s.delete (fun _ => Service.inMemory) m = _ := runBatch_ends s (.destroy s.kind) m
  rw [hrun]
  exact ⟨rfl, rfl, rfl⟩

theorem result_delete (apart : (s.selectedIds.filter (m.refusesDeletion s.kind)).Nodup) :
    (s.delete (fun _ => Service.inMemory) m).1.2.result
      = Batch.check (s.selectedIds.map (owedOutcome (m.deletionReply s.kind))) := by
  have howed : (s.orderFor (.destroy s.kind) m).outcomes
      = s.selectedIds.map (owedOutcome (m.deletionReply s.kind)) := by
    simp only [orderFor]
    rw [(carryOut_deletions s.kind apart).1]
    rfl
  rw [(delete_ends s m).2.1, howed]

theorem sameData_delete (m : Memory) : (s.batchAnswered (.destroy s.kind) m).SameData
    (s.delete (fun _ => Service.inMemory) m).2 := by
  rw [(delete_ends s m).2.2]
  exact sameData_pagePlan _ _

/-- A deletion takes the selected rows away that are not refused, and no others. -/
theorem rowsAt_delete (apart : (s.selectedIds.filter (m.refusesDeletion s.kind)).Nodup)
    (path : String) :
    (s.delete (fun _ => Service.inMemory) m).2.rowsAt path =
      if path = (Endpoint.collection s.kind).path
        then Memory.withoutRows (s.selectedIds.filter fun id => !m.refusesDeletion s.kind id)
          (m.rowsAt path)
        else m.rowsAt path := by
  simp only [Memory.rowsAt]
  rw [(sameData_delete s m).rows, batchAnswered, (carryOut_deletions s.kind apart).2.rows path]
  split
  · cases m.rows.get? path <;> rfl
  · rfl

/-- A deletion depends on the rows and the rules of a service, and not on what it holds back. -/
theorem delete_congr (apart : (s.selectedIds.filter (m.refusesDeletion s.kind)).Nodup) {m' : Memory}
    (rows : m'.rows = m.rows) (rules : m'.rules = m.rules) (path : String) :
    let run := s.delete (fun _ => Service.inMemory) m
    let run' := s.delete (fun _ => Service.inMemory) m'
    run'.1.2.result = run.1.2.result ∧ run'.2.rowsAt path = run.2.rowsAt path := by
  have hrefused : m'.refusesDeletion s.kind = m.refusesDeletion s.kind := by
    funext id
    simp only [Memory.refusesDeletion, Memory.refuses]
    rw [rules]
  have hreply : m'.deletionReply s.kind = m.deletionReply s.kind := by
    funext id
    simp only [Memory.deletionReply, Memory.refusal?]
    rw [rules]
  have apart' : (s.selectedIds.filter (m'.refusesDeletion s.kind)).Nodup := by rwa [hrefused]
  constructor
  · rw [result_delete s apart, result_delete s apart', hreply]
  · rw [rowsAt_delete s apart path, rowsAt_delete s apart' path, hrefused]
    simp only [Memory.rowsAt]
    rw [rows]

theorem counts_delete (apart : (s.selectedIds.filter (m.refusesDeletion s.kind)).Nodup) :
    (s.delete (fun _ => Service.inMemory) m).2.counts = m.counts := by
  rw [(sameData_delete s m).counts, batchAnswered, (carryOut_deletions s.kind apart).2.counts]

theorem params_delete (m : Memory) :
    (s.delete (fun _ => Service.inMemory) m).1.1.params
      = (s.batchSettled (.destroy s.kind) m).params := by
  rw [(delete_ends s m).1]
  exact ((samePlace_fetched _ _).trans (samePlace_unselected _)).params

/-- A deletion calls for each row, in the order of the selection, and then lists the endpoint once. -/
theorem log_delete (m : Memory) :
    let run := s.delete (fun _ => Service.inMemory) m
    ∃ last, (last = [] ∨ last = [(Call.schema s.kind).record]) ∧
      run.2.log = m.log ++ s.selectedIds.map (fun id => (Call.destroy s.kind id).record)
        ++ (Call.list s.endpoint run.1.1.params).record :: last := by
  intro run
  have hcalls : (s.batchAnswered (.destroy s.kind) m).log
      = m.log ++ s.selectedIds.map fun id => (Call.destroy s.kind id).record :=
    (carryOut_fanOut (.destroy s.kind) s.selectedIds m).2
  obtain ⟨last, hlast, hlog⟩ := log_pagePlan (s.batchSettled (.destroy s.kind) m)
    (s.batchAnswered (.destroy s.kind) m)
  refine ⟨last, hlast, ?_⟩
  rw [params_delete s m, ← hcalls, (delete_ends s m).2.2]
  exact hlog

end Delete

/-- **A deletion accounts for every row.**  For a selection of distinct rows one call is made for each, in
the order of the selection; then the endpoint is listed once, at the location where the screen is left.
The result tells the rows apart by whether a rule refuses their call, the rows that are not refused are
gone, and neither depends on what is held back.  Nothing stays selected. -/
theorem delete_accounts_for_every_row (s : Screen) (m : Memory) (distinct : s.selectedIds.Nodup) :
    let run := s.delete (fun _ => Service.inMemory) m
    let result := run.1.2.result
    let refused := m.refusesDeletion s.kind
    let collection := (Endpoint.collection s.kind).path
    (∃ last, (last = [] ∨ last = [(Call.schema s.kind).record]) ∧
      run.2.log = m.log ++ s.selectedIds.map (fun id => (Call.destroy s.kind id).record)
        ++ (Call.list s.endpoint run.1.1.params).record :: last) ∧
    Batch.succeededIds result = s.selectedIds.filter (fun id => !refused id) ∧
    Batch.failedIds result = s.selectedIds.filter refused ∧
    ((∃ ids, result = .ok ids) ↔ Batch.failedIds result = []) ∧
    run.2.rowsAt collection
      = Memory.withoutRows (Batch.succeededIds result) (m.rowsAt collection) ∧
    (∀ m' : Memory, m'.rows = m.rows → m'.rules = m.rules →
      let run' := s.delete (fun _ => Service.inMemory) m'
      run'.1.2.result = result ∧ run'.2.rowsAt collection = run.2.rowsAt collection) ∧
    run.1.1.selection.selected = [] := by
  intro run result refused collection
  have apart : (s.selectedIds.filter refused).Nodup := distinct.filter _
  have hresult : result = Batch.check (s.selectedIds.map (owedOutcome (m.deletionReply s.kind))) :=
    result_delete s apart
  have hsucceeded : Batch.succeededIds result = s.selectedIds.filter fun id => !refused id := by
    rw [hresult]
    exact succeededIds_deletions m s.kind s.selectedIds
  have hfailed : Batch.failedIds result = s.selectedIds.filter refused := by
    rw [hresult]
    exact failedIds_deletions m s.kind s.selectedIds
  refine ⟨log_delete s m, hsucceeded, hfailed, ?_, ?_, ?_, ?_⟩
  · rw [hresult]
    exact Batch.check_eq_ok_iff _
  · rw [hsucceeded]
    exact (rowsAt_delete s apart collection).trans (if_pos rfl)
  · intro m' hrows hrules run'
    exact delete_congr s apart hrows hrules _
  · rw [(delete_ends s m).1]
    rfl

/-- Three hosts are deleted of which one is refused once, while two of the calls are held back. -/
theorem delete_accounts_for_every_row_hosts :
    let m : Memory := { Memory.empty with
      rows := Dict.ofList [("hosts/", [.bare 1, .bare 2, .bare 3, .bare 4])]
      holds := Dict.ofList [("DELETE", 2), ("GET", 1)]
      rules := [⟨"DELETE", "hosts/2/", some 1, .ofStatus "DELETE" "hosts/2/" 403 none⟩] }
    let s : Screen := { ofKind .hosts 20 with
      selection := ⟨[.bare 1, .bare 2, .bare 3], [.bare 3, .bare 2, .bare 1]⟩ }
    let run := s.delete (fun _ => Service.inMemory) m
    Batch.succeededIds run.1.2.result = [3, 1] ∧ Batch.failedIds run.1.2.result = [2] ∧
      (run.2.rowsAt "hosts/").map Item.id = [2, 4] := by
  intro m s run
  have distinct : s.selectedIds.Nodup := by decide +kernel
  have hids : (s.selectedIds.filter fun id => !m.refusesDeletion s.kind id) = [3, 1] ∧
      s.selectedIds.filter (m.refusesDeletion s.kind) = [2] ∧
      (Memory.withoutRows [3, 1] (m.rowsAt "hosts/")).map Item.id = [2, 4] := by
    decide +kernel
  have hrun : run = s.delete (fun _ => Service.inMemory) m := rfl
  clear_value run
  obtain ⟨-, hsucceeded, hfailed, -, hrows, -, -⟩ := delete_accounts_for_every_row s m distinct
  rw [← hrun] at hsucceeded hfailed hrows
  rw [hids.1] at hsucceeded
  rw [hsucceeded] at hrows
  have hleft : run.2.rowsAt "hosts/" = Memory.withoutRows [3, 1] (m.rowsAt "hosts/") := hrows
  exact ⟨hsucceeded, hfailed.trans hids.2.1, (congrArg (List.map Item.id) hleft).trans hids.2.2⟩

end Screen

end AdminConsole
