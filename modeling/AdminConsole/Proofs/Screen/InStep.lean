/-
# `Proofs.Screen.InStep` — a list never shows a torn or out-of-step page

A screen keeps its location, its fetch, its batch and its selection apart, and
each operation updates them in its own order.  What holds them together is that an
operation makes one fetch at most, that it ends with this fetch, and that the
fetch asks for the page at the location which the operation leaves behind
(`Fetches`).  Where a batch goes in between, only its ending is needed: it is
never abandoned, so a fetch follows.

So a run is looked at as a row of fetches (`Run.fetches`).  The page in view is
that of the last one that succeeded, rows, count and schema together, and the
location is that of the last one (`InStep`).
-/
import AdminConsole.Proofs.Screen.InMemory
import AdminConsole.Proofs.Screen.Location
import AdminConsole.Proofs.Selection
import Mathlib.Data.List.Induction

namespace AdminConsole.Screen

/-! ## Fetches -/

/-- A fetch: the screen at whose location a page is asked for, and the service as it stands then. -/
structure Fetch where
  screen : Screen
  memory : Memory

namespace Fetch

def reply (f : Fetch) : Except ApiError Page := (Service.carryOutIn f.screen.pagePlan f.memory).1

def after (f : Fetch) : Memory := (Service.carryOutIn f.screen.pagePlan f.memory).2

/-- The page that a screen shows after a fetch, over the one it has shown before. -/
def pageOver (f : Fetch) (before : Page) : Page :=
  match f.reply with
  | .ok page => page
  | .error _ => before

/-- The failure that a screen shows after a fetch. -/
def error? (f : Fetch) : Option ApiError :=
  match f.reply with
  | .ok _ => none
  | .error e => some e

theorem eq_pageFor {f : Fetch} {page : Page} (h : f.reply = .ok page) :
    page = f.memory.pageFor f.screen := by
  obtain ⟨hserved, hrefused⟩ := carryOut_pagePlan f.screen f.memory
  simp only [reply] at h
  cases hrefuses : f.memory.refusesPage f.screen with
  | false =>
      rw [hserved hrefuses] at h
      cases h
      rfl
  | true =>
      obtain ⟨e, he⟩ := hrefused hrefuses
      rw [he] at h
      cases h

end Fetch

/-- The page after a row of fetches: that of the last one that succeeded. -/
def pageAfter (past : List Fetch) : Page := past.foldl (fun page f => f.pageOver page) Page.empty

theorem pageAfter_concat (past : List Fetch) (f : Fetch) :
    pageAfter (past ++ [f]) = f.pageOver (pageAfter past) := by
  simp only [pageAfter]
  rw [List.foldl_append]
  rfl

theorem pageAfter_of_getLast? {past : List Fetch} {f : Fetch} {page : Page}
    (hlast : past.getLast? = some f) (hreply : f.reply = .ok page) : pageAfter past = page := by
  obtain ⟨before, rfl⟩ := List.getLast?_eq_some_iff.mp hlast
  rw [pageAfter_concat]
  simp only [Fetch.pageOver, hreply]

/-- A page comes from one single fetch, unless nothing was fetched yet. -/
theorem pageAfter_cases (past : List Fetch) :
    pageAfter past = Page.empty ∨ ∃ f ∈ past, f.reply = .ok (pageAfter past) := by
  induction past using List.reverseRecOn with
  | nil => exact .inl rfl
  | append_singleton past f ih =>
      rw [pageAfter_concat]
      simp only [Fetch.pageOver]
      cases hreply : f.reply with
      | ok page => exact .inr ⟨f, List.mem_append_right _ (List.mem_singleton.mpr rfl), hreply⟩
      | error e =>
          -- the page stays, and with it the fetch that it comes from
          refine ih.imp id ?_
          rintro ⟨g, hg, hpage⟩
          exact ⟨g, List.mem_append_left _ hg, hpage⟩

/-! ## The fetches of a run -/

/-- Whether an event is an operation of the screen run to its end, or does without the screen.  Left
out are fetches begun by hand, what is done to them, and operations taken step by step. -/
def Event.isOperation : Event → Bool
  | .begin _ => false
  | .poll _ => false
  | .drop _ => false
  | .release => false
  | .cancel => false
  | .close => false
  | .launch _ => false
  | .resume => false
  | .giveUp => false
  | _ => true

namespace Run

/-- The fetch with which a batch ends, one page back if the batch has emptied the page. -/
def fetchAfter (run : Run) (call : ResourceId → Call Unit) : Fetch :=
  let s := run.screen
  let back := Batch.previousPage? s.scope s.selection.isAllSelected s.location
  ⟨s.moveTo (back.getD s.location), (Service.carryOutIn (fanOut call s.selectedIds) run.memory).2⟩

/-- The fetch that an operation makes. -/
def fetch? (run : Run) : Event → Option Fetch
  | .navigate search => some ⟨run.screen.moveTo search, run.memory⟩
  | .fetch => some ⟨run.screen, run.memory⟩
  | .edit e =>
    some ⟨run.screen.moveTo (e.relocate run.screen.scope run.screen.location), run.memory⟩
  | .delete => some (run.fetchAfter fun id => .destroy run.screen.kind id)
  | .disassociate => some (run.fetchAfter fun id => .associate run.screen.endpoint ⟨id, true⟩)
  | _ => none

def fetches (run : Run) : List Event → List Fetch
  | [] => []
  | e :: events => (run.fetch? e).toList ++ (run.step e).1.fetches events

end Run

/-! ## Screens -/

/-- Two screens that ask for the same page. -/
structure SamePlace (s s' : Screen) : Prop where
  kind : s'.kind = s.kind
  endpoint : s'.endpoint = s.endpoint
  scope : s'.scope = s.scope
  location : s'.location = s.location

theorem SamePlace.refl (s : Screen) : SamePlace s s := ⟨rfl, rfl, rfl, rfl⟩

theorem SamePlace.trans {s s' s'' : Screen} (h : SamePlace s s') (h' : SamePlace s' s'') :
    SamePlace s s'' where
  kind := h'.kind.trans h.kind
  endpoint := h'.endpoint.trans h.endpoint
  scope := h'.scope.trans h.scope
  location := h'.location.trans h.location

theorem SamePlace.params {s s' : Screen} (h : SamePlace s s') : s'.params = s.params := by
  simp only [Screen.params]
  rw [h.scope, h.location]

theorem SamePlace.pagePlan {s s' : Screen} (h : SamePlace s s') : s'.pagePlan = s.pagePlan := by
  simp only [Screen.pagePlan]
  rw [h.kind, h.endpoint, h.params]

theorem SamePlace.pageFor {s s' : Screen} (h : SamePlace s s') (m : Memory) :
    m.pageFor s' = m.pageFor s := by
  simp only [Memory.pageFor]
  rw [h.kind, h.endpoint, h.params]

/-- Which calls a fetch makes does not depend on the location. -/
theorem refusesPage_moveTo (m : Memory) (s : Screen) (search : String) :
    m.refusesPage (s.moveTo search) = m.refusesPage s := rfl

/-- A screen after a fetch. -/
structure Shows (f : Fetch) (before : Page) (s : Screen) : Prop where
  place : SamePlace f.screen s
  fetching : s.fetch.isLoading = false
  inView : s.selection.items = s.page.rows
  page : s.page = f.pageOver before
  error : s.error? = f.error?

theorem shows_fetched {f : Fetch} {s : Screen} (place : SamePlace f.screen s) :
    Shows f s.page (s.fetched f.reply) := by
  cases hreply : f.reply with
  | ok page =>
      have hpage : f.pageOver s.page = page := by simp only [Fetch.pageOver, hreply]
      have herror : f.error? = none := by simp only [Fetch.error?, hreply]
      rw [fetched_ok]
      exact ⟨⟨place.kind, place.endpoint, place.scope, place.location⟩, rfl, rfl, hpage.symm,
        herror.symm⟩
  | error e =>
      have hpage : f.pageOver s.page = s.page := by simp only [Fetch.pageOver, hreply]
      have herror : f.error? = some e := by simp only [Fetch.error?, hreply]
      rw [fetched_error]
      exact ⟨⟨place.kind, place.endpoint, place.scope, place.location⟩, rfl, rfl, hpage.symm,
        herror.symm⟩

theorem deletion_fetched (s : Screen) (reply : Except ApiError Page) :
    (s.fetched reply).deletion = s.deletion := by
  cases reply with
  | ok page => rw [fetched_ok]
  | error e => rw [fetched_error]

/-! ## Batches -/

theorem perform_eq {α : Type} (phase : Phase) (p : Plan α) (w : World) :
    (World.perform phase p w).1 = (Service.carryOutIn p w.memory).1 ∧
      (World.perform phase p w).2.memory = (Service.carryOutIn p w.memory).2 := ⟨rfl, rfl⟩

/-- What is done once a batch has settled: its follow-up, and then nothing is selected. -/
def follow (settled : Screen × Batch.Outcome ResourceId) (w : World) :
    (Screen × Batch.Outcome ResourceId) × World :=
  let followed := followUp memoryService settled.1 settled.2.followUp w
  ((followed.1.unselected, settled.2), followed.2)

theorem runBatch_eq (s : Screen) (call : ResourceId → Call Unit) (w : World) :
    runBatch memoryService s call w =
      let started := { s with deletion := s.deletion.start }
      let replied := World.perform started.phase (fanOut call s.selectedIds) w
      follow (started.settleBatch
        ⟨outcomesOf s.selectedIds replied.1, s.selection.isAllSelected, s.location⟩) replied.2 := rfl

theorem followUp_next (s : Screen) (order : Batch.Order ResourceId) (w : World) :
    followUp memoryService s (order.next s.scope) w =
      let back := Batch.previousPage? s.scope order.allSelected order.search
      let loaded := load memoryService (s.moveTo (back.getD s.location)) w
      (loaded.1.1, loaded.2) := by
  simp only [Batch.Order.next]
  cases Batch.previousPage? s.scope order.allSelected order.search with
  | some search => rfl
  | none => rfl

/-- The screen on which the fetch after a batch begins. -/
def settledFor (s : Screen) (order : Batch.Order ResourceId) : Screen :=
  let back := Batch.previousPage? s.scope order.allSelected order.search
  { s with
    deletion := s.deletion.accept (Batch.check order.outcomes)
    location := back.getD s.location }

theorem samePlace_settledFor (s : Screen) (order : Batch.Order ResourceId) :
    let back := Batch.previousPage? s.scope order.allSelected order.search
    SamePlace (s.moveTo (back.getD s.location)) (s.settledFor order) := ⟨rfl, rfl, rfl, rfl⟩

theorem isLoading_settledFor (s : Screen) (order : Batch.Order ResourceId) :
    (s.settledFor order).deletion.isLoading = false := by
  show (s.deletion.accept (Batch.check order.outcomes)).isLoading = false
  cases Batch.check order.outcomes <;> rfl

/-- A batch that is the newest one ends with a fetch. -/
theorem follow_settleBatch (s : Screen) (order : Batch.Order ResourceId) (w : World) :
    (follow (s.settleBatch order) w).1.1 = ((s.settledFor order).fetched
        (Service.carryOutIn (s.settledFor order).pagePlan w.memory).1).unselected ∧
      (follow (s.settleBatch order) w).2.memory
        = (Service.carryOutIn (s.settledFor order).pagePlan w.memory).2 := by
  have hnext := followUp_next
    { s with deletion := s.deletion.accept (Batch.check order.outcomes) } order w
  rw [settleBatch_eq]
  simp only [follow, Batch.Order.ending]
  rw [hnext]
  exact ⟨rfl, rfl⟩

/-- What a batch of a run was started with, and what became of its resources. -/
def Run.orderFor (run : Run) (call : ResourceId → Call Unit) : Batch.Order ResourceId :=
  let s := run.screen
  ⟨outcomesOf s.selectedIds (Service.carryOutIn (fanOut call s.selectedIds) run.memory).1,
    s.selection.isAllSelected, s.location⟩

/-- The screen of a run on which the fetch after its batch begins. -/
def Run.settled (run : Run) (call : ResourceId → Call Unit) : Screen :=
  ({ run.screen with deletion := run.screen.deletion.start } : Screen).settledFor (run.orderFor call)

theorem samePlace_settled (run : Run) (call : ResourceId → Call Unit) :
    SamePlace (run.fetchAfter call).screen (run.settled call) := by
  obtain ⟨hkind, hendpoint, hscope, hlocation⟩ := samePlace_settledFor
    { run.screen with deletion := run.screen.deletion.start } (run.orderFor call)
  exact ⟨hkind, hendpoint, hscope, hlocation⟩

theorem runBatch_world (run : Run) (call : ResourceId → Call Unit) :
    (runBatch memoryService run.screen call ⟨run.memory, []⟩).1.1
        = ((run.settled call).fetched (run.fetchAfter call).reply).unselected ∧
      (runBatch memoryService run.screen call ⟨run.memory, []⟩).2.memory
        = (run.fetchAfter call).after := by
  let started : Screen := { run.screen with deletion := run.screen.deletion.start }
  obtain ⟨-, hmemory⟩ :=
    perform_eq started.phase (fanOut call run.screen.selectedIds) ⟨run.memory, []⟩
  obtain ⟨hscreen, hafter⟩ := follow_settleBatch started (run.orderFor call)
    (World.perform started.phase (fanOut call run.screen.selectedIds) ⟨run.memory, []⟩).2
  have hrun : runBatch memoryService run.screen call ⟨run.memory, []⟩
      = follow (started.settleBatch (run.orderFor call))
        (World.perform started.phase (fanOut call run.screen.selectedIds) ⟨run.memory, []⟩).2 :=
    runBatch_eq run.screen call ⟨run.memory, []⟩
  -- the batch itself moves nothing, so what is fetched after it is the page of `fetchAfter`
  have hplan : (started.settledFor (run.orderFor call)).pagePlan
      = (run.fetchAfter call).screen.pagePlan := (samePlace_settled run call).pagePlan
  rw [hmemory, hplan] at hscreen hafter
  rw [hrun, hscreen, hafter]
  exact ⟨rfl, rfl⟩

/-! ## Operations that fetch -/

/-- The last thing that an operation does is a fetch at the location it leaves behind. -/
structure Fetches (f : Fetch) (run next : Run) : Prop where
  isOpen : next.isOpen = true
  memory : next.memory = f.after
  deleting : next.screen.deletion.isLoading = false
  shows : Shows f run.screen.page next.screen

section Steps

variable {run next : Run} {f : Fetch} {e : Event} {past : List Fetch}

theorem fetches_load (isOpen : run.isOpen = true) (deleting : run.screen.deletion.isLoading = false)
    (search : String) (moved : Bool) :
    Fetches ⟨run.screen.moveTo search, run.memory⟩ run
      (run.settling moved (load memoryService (run.screen.moveTo search))).1 where
  isOpen := isOpen
  memory := rfl
  deleting := by
    show ((run.screen.moveTo search).fetched _).deletion.isLoading = false
    rw [deletion_fetched]
    exact deleting
  shows := shows_fetched (f := ⟨run.screen.moveTo search, run.memory⟩) (SamePlace.refl _)

theorem fetches_runBatch (isOpen : run.isOpen = true) (call : ResourceId → Call Unit) :
    Fetches (run.fetchAfter call) run
      (run.batching (runBatch memoryService run.screen call)).1 := by
  obtain ⟨hscreen, hmemory⟩ := runBatch_world run call
  have hshows : Shows (run.fetchAfter call) run.screen.page
      ((run.settled call).fetched (run.fetchAfter call).reply) :=
    shows_fetched (samePlace_settled run call)
  have hnext : (run.batching (runBatch memoryService run.screen call)).1.screen
      = ((run.settled call).fetched (run.fetchAfter call).reply).unselected := hscreen
  refine ⟨isOpen, hmemory, ?_, ?_⟩
  · rw [hnext]
    show ((run.settled call).fetched (run.fetchAfter call).reply).deletion.isLoading = false
    rw [deletion_fetched]
    exact isLoading_settledFor _ (run.orderFor call)
  · rw [hnext]
    exact ⟨⟨hshows.place.kind, hshows.place.endpoint, hshows.place.scope, hshows.place.location⟩,
      hshows.fetching, hshows.inView, hshows.page, hshows.error⟩

theorem step_operation (isOpen : run.isOpen = true) (operation : e.isOperation = true) :
    run.step e = run.screenStep e ∨ ∃ more, e = .extend more := by
  cases e with
  | extend more => exact .inr ⟨more, rfl⟩
  | begin id => cases operation
  | poll id => cases operation
  | drop id => cases operation
  | release => cases operation
  | cancel => cases operation
  | launch task => cases operation
  | resume => cases operation
  | giveUp => cases operation
  | _ => exact .inl (if_pos isOpen)

theorem fetches_step (isOpen : run.isOpen = true) (deleting : run.screen.deletion.isLoading = false)
    (operation : e.isOperation = true) (h : run.fetch? e = some f) :
    Fetches f run (run.step e).1 := by
  obtain hstep | ⟨more, rfl⟩ := step_operation isOpen operation
  · rw [hstep]
    cases e with
    | navigate search =>
        cases h
        exact fetches_load isOpen deleting search true
    | fetch =>
        cases h
        exact fetches_load isOpen deleting run.screen.location false
    | edit e =>
        cases h
        exact fetches_load isOpen deleting (e.relocate run.screen.scope run.screen.location) true
    | delete =>
        cases h
        exact fetches_runBatch isOpen _
    | disassociate =>
        cases h
        exact fetches_runBatch isOpen _
    | _ => cases h
  · cases h

/-! ## Other operations -/

/-- A screen that shows the same page as before, at the same place. -/
structure Stays (s s' : Screen) : Prop where
  place : SamePlace s s'
  fetching : s'.fetch.isLoading = s.fetch.isLoading
  deleting : s'.deletion.isLoading = s.deletion.isLoading
  items : s'.selection.items = s.selection.items
  page : s'.page = s.page
  error : s.error? = none → s'.error? = none

theorem Stays.refl (s : Screen) : Stays s s := ⟨SamePlace.refl s, rfl, rfl, rfl, rfl, id⟩

theorem Stays.select (s : Screen) {selection : Selection Item}
    (h : selection.items = s.selection.items) : Stays s { s with selection } :=
  ⟨⟨rfl, rfl, rfl, rfl⟩, rfl, rfl, h, rfl, id⟩

theorem stays_step (isOpen : run.isOpen = true) (operation : e.isOperation = true)
    (h : run.fetch? e = none) :
    (run.step e).1.isOpen = true ∧ Stays run.screen (run.step e).1.screen := by
  obtain hstep | ⟨more, rfl⟩ := step_operation isOpen operation
  · rw [hstep]
    cases e with
    | details => exact ⟨isOpen, Stays.refl _⟩
    | select item => exact ⟨isOpen, Stays.select _ (Selection.items_toggle _ item)⟩
    | selectRow i =>
        simp only [Run.screenStep]
        cases run.screen.row? i with
        | some item => exact ⟨isOpen, Stays.select _ (Selection.items_toggle _ item)⟩
        | none => exact ⟨isOpen, Stays.refl _⟩
    | selectAll on => exact ⟨isOpen, Stays.select _ rfl⟩
    | setSelected items => exact ⟨isOpen, Stays.select _ rfl⟩
    | clearSelected => exact ⟨isOpen, Stays.select _ rfl⟩
    | dismiss => exact ⟨isOpen, ⟨⟨rfl, rfl, rfl, rfl⟩, rfl, rfl, rfl, rfl, fun _ => rfl⟩⟩
    | clearDeletionError => exact ⟨isOpen, ⟨⟨rfl, rfl, rfl, rfl⟩, rfl, rfl, rfl, rfl, id⟩⟩
    | extend more => exact ⟨isOpen, Stays.refl _⟩
    | close => cases operation
    | begin id => cases operation
    | poll id => cases operation
    | drop id => cases operation
    | release => cases operation
    | cancel => cases operation
    | launch task => cases operation
    | resume => cases operation
    | giveUp => cases operation
    | _ => cases h
  · exact ⟨isOpen, Stays.refl _⟩

/-! ## Runs -/

/-- A run whose screen is in step with its fetches. -/
structure InStep (past : List Fetch) (run : Run) : Prop where
  isOpen : run.isOpen = true
  fetching : run.screen.fetch.isLoading = false
  deleting : run.screen.deletion.isLoading = false
  inView : run.screen.selection.items = run.screen.page.rows
  page : run.screen.page = pageAfter past
  place : ∀ f, past.getLast? = some f → SamePlace f.screen run.screen
  error : ∀ f, past.getLast? = some f → f.error? = none → run.screen.error? = none

theorem InStep.fetched (h : InStep past run) (hf : Fetches f run next) :
    InStep (past ++ [f]) next where
  isOpen := hf.isOpen
  fetching := hf.shows.fetching
  deleting := hf.deleting
  inView := hf.shows.inView
  page := by rw [hf.shows.page, h.page, pageAfter_concat]
  place := by
    intro g hg
    rw [List.getLast?_concat] at hg
    cases hg
    exact hf.shows.place
  error := by
    intro g hg hnone
    rw [List.getLast?_concat] at hg
    cases hg
    exact hf.shows.error.trans hnone

theorem InStep.stays (h : InStep past run) (isOpen : next.isOpen = true)
    (hs : Stays run.screen next.screen) : InStep past next where
  isOpen := isOpen
  fetching := hs.fetching.trans h.fetching
  deleting := hs.deleting.trans h.deleting
  inView := by rw [hs.items, hs.page, h.inView]
  page := hs.page.trans h.page
  place f hf := (h.place f hf).trans hs.place
  error f hf hnone := hs.error (h.error f hf hnone)

theorem InStep.step (h : InStep past run) (operation : e.isOperation = true) :
    InStep (past ++ (run.fetch? e).toList) (run.step e).1 := by
  cases hf : run.fetch? e with
  | some f => exact h.fetched (fetches_step h.isOpen h.deleting operation hf)
  | none =>
      obtain ⟨isOpen, hstays⟩ := stays_step h.isOpen operation hf
      rw [Option.toList_none, List.append_nil]
      exact h.stays isOpen hstays

theorem InStep.after (h : InStep past run) {events : List Event}
    (operations : ∀ e ∈ events, e.isOperation = true) :
    InStep (past ++ run.fetches events) (run.after events) := by
  induction events generalizing past run with
  | nil =>
      show InStep (past ++ []) run
      rw [List.append_nil]
      exact h
  | cons e events ih =>
      -- the fetches so far are carried along: the page and the place are about all of them
      obtain ⟨he, hevents⟩ := List.forall_mem_cons.mp operations
      have hnext := ih (h.step he) hevents
      rw [List.append_assoc] at hnext
      exact hnext

theorem InStep.initial (k : Kind) (pageSize : Nat) (endpoint : Endpoint) (memory : Memory) :
    InStep [] (Run.initial (ofEndpoint k pageSize endpoint) memory) where
  isOpen := rfl
  fetching := rfl
  deleting := rfl
  inView := rfl
  page := rfl
  place _ hf := by cases hf
  error _ hf := by cases hf

end Steps

/-- **A list never shows a torn or out-of-step page.**  After any row of operations, each run to its
end, nothing is loading, the rows in view are those of the page, and the page is what the fetches have
left: all of it comes from one fetch.  If the last fetch succeeded there is no error, and the page is
the one kept at the location where the screen is now; a fetch that fails leaves the page and shows the
failure. -/
theorem page_in_step (k : Kind) (pageSize : Nat) (endpoint : Endpoint) (memory : Memory)
    {events : List Event} (operations : ∀ e ∈ events, e.isOperation = true) :
    let start := Run.initial (ofEndpoint k pageSize endpoint) memory
    let run := start.after events
    let past := start.fetches events
    run.screen.fetch.isLoading = false ∧ run.screen.deletion.isLoading = false ∧
    run.screen.selection.items = run.screen.page.rows ∧
    run.screen.page = pageAfter past ∧
    (pageAfter past = Page.empty ∨
      ∃ f ∈ past, f.reply = .ok (pageAfter past) ∧ pageAfter past = f.memory.pageFor f.screen) ∧
    (∀ f page, past.getLast? = some f → f.reply = .ok page →
      run.screen.error? = none ∧ run.screen.page = page ∧
        f.screen.params = run.screen.params ∧ page = f.memory.pageFor run.screen) ∧
    ∀ e f, e.isOperation = true → run.fetch? e = some f →
      (run.step e).1.memory = f.after ∧
        ∀ err, f.reply = .error err →
          (run.step e).1.screen.page = run.screen.page ∧ (run.step e).1.screen.error? = some err := by
  intro start run past
  have h : InStep past run := (InStep.initial k pageSize endpoint memory).after operations
  refine ⟨h.fetching, h.deleting, h.inView, h.page, ?_, ?_, ?_⟩
  · refine (pageAfter_cases past).imp id ?_
    rintro ⟨f, hf, hreply⟩
    exact ⟨f, hf, hreply, Fetch.eq_pageFor hreply⟩
  · intro f page hlast hreply
    have hplace := h.place f hlast
    have hpage : run.screen.page = page := h.page.trans (pageAfter_of_getLast? hlast hreply)
    have herror : f.error? = none := by simp only [Fetch.error?, hreply]
    refine ⟨h.error f hlast herror, hpage, hplace.params.symm, ?_⟩
    rw [hplace.pageFor]
    exact Fetch.eq_pageFor hreply
  · intro e f operation hf
    have hfetch := fetches_step h.isOpen h.deleting operation hf
    refine ⟨hfetch.memory, fun err hreply => ⟨?_, ?_⟩⟩
    · rw [hfetch.shows.page]
      simp only [Fetch.pageOver, hreply]
    · rw [hfetch.shows.error]
      simp only [Fetch.error?, hreply]

/-- A page of teams is fetched, and then the schema is refused. -/
theorem page_in_step_teams :
    let m : Memory := { Memory.empty with
      rows := Dict.ofList [("teams/", [.bare 7, .bare 5])]
      holds := Dict.ofList [("GET", 1)] }
    let refusing : Memory := { Memory.empty with
      rules := [⟨"OPTIONS", "teams/", none, .ofStatus "OPTIONS" "teams/" 403 none⟩] }
    let events : List Event := [.fetch, .selectAll true, .extend refusing]
    let run := (Run.initial (ofEndpoint .teams 20 (.collection .teams)) m).after events
    (∀ e ∈ events, e.isOperation = true) ∧
      run.screen.error? = none ∧ run.screen.page = m.pageFor run.screen ∧
      ∃ err, (run.step (.edit (.page 2))).1.screen.page = run.screen.page ∧
        (run.step (.edit (.page 2))).1.screen.error? = some err := by
  intro m refusing events run
  -- the run is taken for its definition, so that nothing evaluates it
  have hrefuses : run.memory.refusesPage run.screen = true := by decide +kernel
  have hrun : run = (Run.initial (ofEndpoint .teams 20 (.collection .teams)) m).after events := rfl
  clear_value run
  subst hrun
  have operations : ∀ e ∈ events, e.isOperation = true := by
    intro e he
    simp only [events, List.mem_cons, List.not_mem_nil, or_false] at he
    obtain rfl | rfl | rfl := he <;> rfl
  obtain ⟨-, -, -, -, -, hlast, hnext⟩ :=
    page_in_step .teams 20 (.collection .teams) m operations
  have hserved : m.refusesPage (ofEndpoint .teams 20 (.collection .teams)) = false := by
    decide +kernel
  obtain ⟨herror, hpage, -, hkept⟩ := hlast _ _ rfl ((carryOut_pagePlan _ m).1 hserved)
  obtain ⟨-, hfailed⟩ := hnext (.edit (.page 2)) _ rfl rfl
  obtain ⟨err, hrefused⟩ := (carryOut_pagePlan _ _).2 ((refusesPage_moveTo _ _ _).trans hrefuses)
  exact ⟨operations, herror, hpage.trans hkept, err, hfailed err hrefused⟩

end AdminConsole.Screen
