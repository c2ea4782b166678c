/-
# `Proofs.Screen.InMemory` — the operations of a screen over a service kept in memory

One lemma for each operation.  A fetch only reads, and it shows what the service
keeps at the location unless a rule refuses a call for it (`load_inMemory`).  A
batch makes one call for each selected row and otherwise only reads, and its
result tells apart exactly the outcomes of those calls (`runBatch_inMemory`).
-/
import AdminConsole.Proofs.Api.Reading
import AdminConsole.Proofs.Batch.Outcome
import AdminConsole.Proofs.Screen.FanOut

namespace AdminConsole.Screen

/-- A screen whose fetch has been answered, with the rows in view. -/
def fetched (s : Screen) (reply : Except ApiError Page) : Screen :=
  (s.startFetch.settleFetch reply).1.showRows

/-! ## Fetches -/

theorem fetched_ok (s : Screen) (page : Page) :
    s.fetched (.ok page) =
      { s with
        fetch := ⟨page, false, none, s.fetch.generation + 1⟩
        selection := s.selection.setItems page.rows } := by
  simp [fetched, settleFetch, startFetch, Request.settle, Request.isNewest, Request.start,
    Request.accept, showRows, Screen.page]

theorem fetched_error (s : Screen) (e : ApiError) :
    s.fetched (.error e) =
      { s with
        fetch := ⟨s.fetch.result, false, some e, s.fetch.generation + 1⟩
        selection := s.selection.setItems s.page.rows } := by
  simp [fetched, settleFetch, startFetch, Request.settle, Request.isNewest, Request.start,
    Request.accept, showRows, Screen.page]

theorem load_eq_fetched (s : Screen) (m : Memory) :
    load (fun _ => Service.inMemory) s m =
      ((s.fetched (Service.carryOutIn s.pagePlan m).1,
        (s.startFetch.settleFetch (Service.carryOutIn s.pagePlan m).1).2),
        (Service.carryOutIn s.pagePlan m).2) := rfl

/-- A fetch reads, and shows the page that is kept unless a rule refuses a call for it. -/
theorem load_inMemory (s : Screen) (m : Memory) :
    m.Noted (load (fun _ => Service.inMemory) s m).2 [] ∧
      (m.refusesPage s = false →
        (load (fun _ => Service.inMemory) s m).1.1 = s.fetched (.ok (m.pageFor s))) ∧
      (m.refusesPage s = true →
        ∃ e, (load (fun _ => Service.inMemory) s m).1.1 = s.fetched (.error e)) := by
  obtain ⟨hserved, hrefused⟩ := carryOut_pagePlan s m
  rw [load_eq_fetched]
  refine ⟨noted_pagePlan s m, fun h => by rw [hserved h], fun h => ?_⟩
  obtain ⟨e, he⟩ := hrefused h
  exact ⟨e, by rw [he]⟩

theorem navigate_inMemory (s : Screen) (search : String) (m : Memory) :
    m.Noted (navigate (fun _ => Service.inMemory) s search m).2 [] ∧
      (m.refusesPage s = false → (navigate (fun _ => Service.inMemory) s search m).1.1
        = (s.moveTo search).fetched (.ok (m.pageFor (s.moveTo search)))) ∧
      (m.refusesPage s = true → ∃ e, (navigate (fun _ => Service.inMemory) s search m).1.1
        = (s.moveTo search).fetched (.error e)) :=
  load_inMemory (s.moveTo search) m

theorem noted_followUp (s : Screen) (next : Batch.FollowUp) (m : Memory) :
    m.Noted (followUp (fun _ => Service.inMemory) s next m).2 [] := by
  cases next with
  | navigate search => exact (navigate_inMemory s search m).1
  | refetched => exact (load_inMemory s m).1
  | abandoned => exact Memory.Noted.refl m

/-! ## Batches -/

theorem settleBatch_eq (s : Screen) (order : Batch.Order ResourceId) :
    s.settleBatch order =
      ({ s with deletion := s.deletion.accept (Batch.check order.outcomes) },
        order.ending s.scope) := by
  have hsettle : s.deletion.settle s.deletion.generation (Batch.check order.outcomes) =
      (Request.outcomeOf (Batch.check order.outcomes),
        ⟨s.deletion.accept (Batch.check order.outcomes), true⟩) := if_pos (beq_self_eq_true _)
  simp only [settleBatch]
  rw [hsettle]
  simp only [Batch.followUpOf_outcomeOf, Batch.resultOf_accept]
  rfl

/-- A batch makes one call for each selected row, in their order, and besides only reads; its result
tells apart one outcome for each. -/
theorem runBatch_inMemory (s : Screen) (call : ResourceId → Call Unit) (m : Memory) :
    (∃ os : List (Batch.ItemOutcome ResourceId), os.map Batch.ItemOutcome.id = s.selectedIds ∧
        (runBatch (fun _ => Service.inMemory) s call m).1.2.result = Batch.check os) ∧
      m.Noted (runBatch (fun _ => Service.inMemory) s call m).2
        ((s.selectedIds.map fun id => (call id).record).filter fun r => !r.reads) := by
  obtain ⟨⟨os, hreply, hids⟩, hlog⟩ := carryOut_fanOut call s.selectedIds m
  have hresult : (runBatch (fun _ => Service.inMemory) s call m).1.2.result
      = Batch.check (outcomesOf s.selectedIds (Service.carryOutIn (fanOut call s.selectedIds) m).1) :=
    congrArg (fun settled => settled.2.result)
      (settleBatch_eq { s with deletion := s.deletion.start } _)
  have hfollow : (Service.carryOutIn (fanOut call s.selectedIds) m).2.Noted
      (runBatch (fun _ => Service.inMemory) s call m).2 [] := noted_followUp _ _ _
  have hfanned : m.Noted (Service.carryOutIn (fanOut call s.selectedIds) m).2
      ((s.selectedIds.map fun id => (call id).record).filter fun r => !r.reads) :=
    ⟨_, hlog, rfl⟩
  rw [hreply] at hresult
  exact ⟨⟨os, hids, hresult⟩, hfanned.trans_nil hfollow⟩

end AdminConsole.Screen
