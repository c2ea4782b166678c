/-
# `Proofs.Screen.Stepwise` — an operation taken step by step comes to the same end

An operation is run to its end at once, or it is launched and goes on whenever a
call has been released.  Both ways ask the service for the same plans, one after
the other, and what becomes of a plan does not depend on who waits for it
(`Waits.leads`).  So they leave the same run and give the same answer
(`stepwise_eq`), and what holds of operations that were run to their end holds of
those that were taken step by step.
-/
import AdminConsole.Proofs.Screen.InStep

namespace AdminConsole.Screen

/-- The operation of a task, run to its end. -/
def Task.event : Task → Event
  | .navigate search => .navigate search
  | .fetch => .fetch
  | .edit e => .edit e
  | .delete => .delete
  | .disassociate => .disassociate

namespace Run

/-- The step on which an operation has gone on. -/
def Progress.step (p : Progress) : Run × Seen := (p.run, p.seen)

/-! ## Rounds -/

/-- A step leads to another one in rounds: in each of them the call held longest is released, and then
the operation under way goes on. -/
inductive Leads (x : Run × Seen) : Run × Seen → Prop
  | refl : Leads x x
  | round {y : Run × Seen} : Leads x y → Leads x ((y.1.step .release).1.step .resume)

variable {x y z : Run × Seen}

theorem Leads.trans (hxy : Leads x y) (hyz : Leads y z) : Leads x z := by
  induction hyz with
  | refl => exact hxy
  | round _ ih => exact ih.round

/-- What is seen of a step does not matter to those that follow it, except for its answer. -/
theorem Leads.congr {x' : Run × Seen} (hrun : x.1 = x'.1) (hanswer : x.2.answer = x'.2.answer)
    (h : Leads x y) : ∃ y', Leads x' y' ∧ y.1 = y'.1 ∧ y.2.answer = y'.2.answer := by
  induction h with
  | refl => exact ⟨x', .refl, hrun, hanswer⟩
  | round _ ih =>
      obtain ⟨y', hy, hrun, -⟩ := ih
      rw [hrun]
      exact ⟨_, hy.round, rfl, rfl⟩

theorem Leads.exists_after (h : Leads x y) :
    ∃ n, y.1 = x.1.after (List.replicate n [Event.release, .resume]).flatten := by
  induction h with
  | refl => exact ⟨0, rfl⟩
  | @round y _ ih =>
      obtain ⟨n, hn⟩ := ih
      refine ⟨n + 1, ?_⟩
      rw [List.replicate_succ', List.flatten_append]
      simp only [after] at hn ⊢
      rw [List.foldl_append, ← hn]
      rfl

/-! ## Waiting for a plan -/

/-- A stage of an operation: it waits as long as its flight has not landed, and then goes on with a
flight that has been polled. -/
structure Waits {α : Type} (run : Run) (on : Memory → Flight α → Progress)
    (work : Flight α → Work) : Prop where
  waits : ∀ {f : Flight α} {m : Memory}, f.outcome? = none →
    on m f = { run with memory := m }.await (work f)
  resumes : ∀ (f : Flight α) (m : Memory),
    { run with memory := m, standing := .busy (work f) }.resume (work f) = on (f.poll m).2 (f.poll m).1

variable {run : Run}

theorem step_round (run : Run) (work : Work) {m : Memory} (hrelease : run.memory.release? = some m) :
    ((run.await work).run.step .release).1.step .resume
      = ({ run with memory := m, standing := .busy work }.resume work).step := by
  have hreleased : ((run.await work).run.step .release).1
      = { run with memory := m, standing := .busy work } := by
    show ((run.await work).run.releaseOne).1 = _
    have hmemory : (run.await work).run.memory.release? = some m := hrelease
    simp only [releaseOne, hmemory]
    rfl
  rw [hreleased]
  rfl

theorem Waits.leads {α : Type} {on : Memory → Flight α → Progress} {work : Flight α → Work}
    (h : run.Waits on work) (p : Plan α) (m : Memory) :
    Leads (on (Flight.launch p m).2 (Flight.launch p m).1).step
      (on (Service.carryOutIn p m).2 (.landed (Service.carryOutIn p m).1)).step := by
  obtain ⟨waits, r, m', hcarry, hleads⟩ := Flight.carryOut_ends
    (I := fun f m' => Leads (on (Flight.launch p m).2 (Flight.launch p m).1).step (on m' f).step)
    (p := p) (m := m)
    (by
      intro f m₁ m₂ hwaiting hleads hrelease
      rw [h.waits hwaiting] at hleads
      have hround := step_round { run with memory := m₁ } (work f) hrelease
      rw [← h.resumes f m₂, ← hround]
      exact hleads.round)
    .refl
  simp only [Service.carryOutIn]
  rw [hcarry]
  exact hleads

/-! ## Fetches -/

/-- A step whose operation ends, after some rounds, with a run and an answer. -/
def EndsWith (x : Run × Seen) (next : Run) (answer : Answer) : Prop :=
  ∃ y, Leads x y ∧ y.1 = next ∧ y.2.answer = answer

theorem Leads.endsWith {next : Run} {answer : Answer} (hxy : Leads x y)
    (hy : EndsWith y next answer) : EndsWith x next answer := by
  obtain ⟨z, hz, hnext, hanswer⟩ := hy
  exact ⟨z, hxy.trans hz, hnext, hanswer⟩

theorem EndsWith.congr {x' : Run × Seen} {next : Run} {answer : Answer} (h : EndsWith x next answer)
    (hrun : x.1 = x'.1) (hanswer : x.2.answer = x'.2.answer) : EndsWith x' next answer := by
  obtain ⟨y, hxy, rfl, rfl⟩ := h
  obtain ⟨y', hy, hrun', hanswer'⟩ := hxy.congr hrun hanswer
  exact ⟨y', hy, hrun'.symm, hanswer'.symm⟩

theorem onFetch_standing (run : Run) (standing : Standing) (generation : Nat) (flight : Flight Page)
    (batch : Option (Batch.Outcome ResourceId)) :
    { run with standing }.onFetch generation flight batch = run.onFetch generation flight batch := by
  simp only [onFetch]
  cases flight.outcome? with
  | none => rfl
  | some reply => cases batch <;> rfl

theorem goFetch_standing (run : Run) (standing : Standing)
    (batch : Option (Batch.Outcome ResourceId)) :
    { run with standing }.goFetch batch = run.goFetch batch := by
  simp only [goFetch]
  rw [onFetch_standing { run with
    screen := run.screen.startFetch
    memory := (Flight.launch run.screen.startFetch.pagePlan run.memory).2 }]

theorem waits_onFetch (run : Run) {generation : Nat}
    (hnewest : run.screen.fetch.isNewest generation = true)
    (batch : Option (Batch.Outcome ResourceId)) :
    run.Waits (fun m f => { run with memory := m }.onFetch generation f batch)
      fun f => .fetching generation f batch where
  waits hwaiting := by simp only [onFetch, hwaiting]
  resumes f m := by
    simp only [resume]
    rw [if_pos hnewest]
    exact onFetch_standing { run with memory := (f.poll m).2 } _ generation (f.poll m).1 batch

/-- A fetch of an operation ends with what the service answers to it. -/
theorem leads_goFetch (run : Run) (batch : Option (Batch.Outcome ResourceId)) :
    let f : Fetch := ⟨run.screen, run.memory⟩
    Leads (run.goFetch batch).step
      ({ run with screen := run.screen.startFetch, memory := f.after }.onFetch
        run.screen.startFetch.fetch.generation (.landed f.reply) batch).step := by
  have hwaits := waits_onFetch { run with screen := run.screen.startFetch }
    (beq_self_eq_true run.screen.startFetch.fetch.generation) batch
  exact hwaits.leads run.screen.pagePlan run.memory

theorem endsWith_goFetch (run : Run) :
    let f : Fetch := ⟨run.screen, run.memory⟩
    EndsWith (run.goFetch none).step
      { run with screen := run.screen.fetched f.reply, standing := .free, memory := f.after }
      (.settled (run.screen.startFetch.settleFetch f.reply).2) :=
  ⟨_, leads_goFetch run none, rfl, rfl⟩

theorem endsWith_goFetch_batch (run : Run) (outcome : Batch.Outcome ResourceId) :
    let f : Fetch := ⟨run.screen, run.memory⟩
    EndsWith (run.goFetch (some outcome)).step
      { run with
        screen := (run.screen.fetched f.reply).unselected
        standing := .free
        memory := f.after }
      (.batch outcome) :=
  ⟨_, leads_goFetch run (some outcome), rfl, rfl⟩

theorem endsWith_goTo {batch : Option (Batch.Outcome ResourceId)} {search : String} {next : Run}
    {answer : Answer}
    (h : EndsWith ((run.withScreen (run.screen.moveTo search)).goFetch batch).step next answer) :
    EndsWith (run.goTo search batch).step next answer := h.congr rfl rfl

/-! ## Batches -/

theorem goAfter_standing (run : Run) (standing : Standing) (outcome : Batch.Outcome ResourceId) :
    { run with standing }.goAfter outcome = run.goAfter outcome := by
  simp only [goAfter]
  cases outcome.followUp with
  | navigate search =>
      simp only [goTo, withScreen]
      rw [goFetch_standing { run with screen := run.screen.moveTo search }]
  | refetched => exact goFetch_standing run standing (some outcome)
  | abandoned => rfl

theorem onBatch_standing (run : Run) (standing : Standing) (charge : Charge)
    (flight : Flight (List (Batch.ItemOutcome ResourceId))) :
    { run with standing }.onBatch charge flight = run.onBatch charge flight := by
  simp only [onBatch]
  cases flight.outcome? with
  | none => rfl
  | some reply => exact goAfter_standing (run.withScreen _) standing _

theorem waits_onBatch (run : Run) (charge : Charge) :
    run.Waits (fun m f => { run with memory := m }.onBatch charge f)
      fun f => .batching charge f where
  waits hwaiting := by simp only [onBatch, hwaiting]
  resumes f m := onBatch_standing { run with memory := (f.poll m).2 } _ charge (f.poll m).1

theorem onBatch_landed (run : Run) {charge : Charge}
    (hnewest : run.screen.deletion.generation = charge.generation)
    (reply : Except ApiError (List (Batch.ItemOutcome ResourceId))) :
    let order : Batch.Order ResourceId :=
      ⟨outcomesOf charge.ids reply, charge.allSelected, charge.search⟩
    run.onBatch charge (.landed reply) = (run.withScreen { run.screen with
      deletion := run.screen.deletion.accept (Batch.check order.outcomes) }).goAfter
        (order.ending run.screen.scope) := by
  intro order
  have hsettle : run.screen.deletion.settle charge.generation (Batch.check order.outcomes) =
      (Request.outcomeOf (Batch.check order.outcomes),
        ⟨run.screen.deletion.accept (Batch.check order.outcomes), true⟩) :=
    if_pos (beq_iff_eq.mpr hnewest)
  simp only [onBatch, Flight.outcome?]
  simp only [order] at hsettle ⊢
  rw [hsettle]
  simp only [Batch.resultOf_accept, Batch.followUpOf_outcomeOf]
  rfl

theorem endsWith_goAfter (run : Run) (order : Batch.Order ResourceId) :
    let s := run.screen.settledFor order
    let f : Fetch := ⟨s, run.memory⟩
    EndsWith ((run.withScreen { run.screen with
        deletion := run.screen.deletion.accept (Batch.check order.outcomes) }).goAfter
          (order.ending run.screen.scope)).step
      { run with screen := (s.fetched f.reply).unselected, standing := .free, memory := f.after }
      (.batch (order.ending run.screen.scope)) := by
  intro s f
  cases hback : Batch.previousPage? run.screen.scope order.allSelected order.search with
  | some search =>
      have hnext : (order.ending run.screen.scope).followUp = .navigate search := by
        simp only [Batch.Order.ending, Batch.Order.next, hback]
      have hs : s = (run.screen.settledFor order).moveTo search := by
        simp only [s, settledFor, hback]
        rfl
      simp only [goAfter, hnext, f]
      rw [hs]
      exact endsWith_goTo (endsWith_goFetch_batch
        (run.withScreen ((run.screen.settledFor order).moveTo search))
        (order.ending run.screen.scope))
  | none =>
      have hnext : (order.ending run.screen.scope).followUp = .refetched := by
        simp only [Batch.Order.ending, Batch.Order.next, hback]
      have hs : s = { run.screen with
          deletion := run.screen.deletion.accept (Batch.check order.outcomes) } := by
        simp only [s, settledFor, hback]
        rfl
      simp only [goAfter, hnext, f]
      rw [hs]
      exact endsWith_goFetch_batch (run.withScreen _) _

theorem endsWith_goBatch (run : Run) (call : ResourceId → Call Unit) :
    EndsWith (run.goBatch call).step
      { run with
        screen := ((run.settled call).fetched (run.fetchAfter call).reply).unselected
        standing := .free
        memory := (run.fetchAfter call).after }
      (.batch ((run.orderFor call).ending run.screen.scope)) := by
  let started : Screen := { run.screen with deletion := run.screen.deletion.start }
  let charge : Charge := ⟨started.deletion.generation, run.screen.selectedIds,
    run.screen.selection.isAllSelected, run.screen.location⟩
  let carried := Service.carryOutIn (fanOut call run.screen.selectedIds) run.memory
  have hleads : Leads (run.goBatch call).step
      ({ run with screen := started, memory := carried.2 }.onBatch charge (.landed carried.1)).step :=
    (waits_onBatch { run with screen := started } charge).leads _ run.memory
  rw [onBatch_landed { run with screen := started, memory := carried.2 } rfl] at hleads
  have hends := hleads.endsWith (endsWith_goAfter
    { run with screen := started, memory := carried.2 } (run.orderFor call))
  -- the batch itself moves nothing, so what is fetched after it is the page of `fetchAfter`
  have hplan := (samePlace_settled run call).pagePlan
  have hreply : Fetch.reply ⟨run.settled call, carried.2⟩ = (run.fetchAfter call).reply := by
    simp only [Fetch.reply]
    rw [hplan]
    rfl
  have hafter : Fetch.after ⟨run.settled call, carried.2⟩ = (run.fetchAfter call).after := by
    simp only [Fetch.after]
    rw [hplan]
    rfl
  rw [← hreply, ← hafter]
  exact hends

/-! ## Operations -/

theorem standing_of_isOpen (isOpen : run.isOpen = true) : run.standing = .free := by
  simp only [Run.isOpen] at isOpen
  split at isOpen
  next hfree => exact hfree
  next => cases isOpen

theorem step_launch (isOpen : run.isOpen = true) (task : Task) :
    run.step (.launch task) = (run.launch task).step := by
  simp only [step, progress?]
  rw [if_pos isOpen]
  rfl

theorem endsWith_settling (isOpen : run.isOpen = true) (search : String) (moved : Bool) :
    EndsWith ((run.withScreen (run.screen.moveTo search)).goFetch none).step
      (run.settling moved (load memoryService (run.screen.moveTo search))).1
      (run.settling moved (load memoryService (run.screen.moveTo search))).2.answer := by
  have hends := endsWith_goFetch (run.withScreen (run.screen.moveTo search))
  rw [← standing_of_isOpen isOpen] at hends
  exact hends

theorem endsWith_batching (isOpen : run.isOpen = true) (call : ResourceId → Call Unit) :
    EndsWith (run.goBatch call).step (run.batching (runBatch memoryService run.screen call)).1
      (run.batching (runBatch memoryService run.screen call)).2.answer := by
  obtain ⟨hscreen, hmemory⟩ := runBatch_world run call
  have hrun : (run.batching (runBatch memoryService run.screen call)).1 = { run with
      screen := ((run.settled call).fetched (run.fetchAfter call).reply).unselected
      standing := .free
      memory := (run.fetchAfter call).after } := by
    rw [← hscreen, ← hmemory, ← standing_of_isOpen isOpen]
    rfl
  have hsettled := settleBatch_eq
    { run.screen with deletion := run.screen.deletion.start } (run.orderFor call)
  have hanswer : (run.batching (runBatch memoryService run.screen call)).2.answer
      = .batch ((run.orderFor call).ending run.screen.scope) :=
    congrArg (fun settled : Screen × Batch.Outcome ResourceId => Answer.batch settled.2) hsettled
  rw [hrun, hanswer]
  exact endsWith_goBatch run call

end Run

/-- **An operation taken step by step comes to the same end as one that is run to it.**  It is launched
on an open screen and goes on after each release of a call, until some such round ends it: then the
screen, the fetches begun by hand and the service are as they would be, and the answer is the same. -/
theorem stepwise_eq {run : Run} (isOpen : run.isOpen = true) (task : Task) :
    Run.EndsWith (run.step (.launch task)) (run.step task.event).1
      (run.step task.event).2.answer := by
  have hstep : run.step task.event = run.screenStep task.event := by
    cases task <;> exact if_pos isOpen
  rw [Run.step_launch isOpen, hstep]
  cases task with
  | navigate search =>
      exact Run.endsWith_goTo (Run.endsWith_settling isOpen search true)
  | fetch => exact Run.endsWith_settling isOpen run.screen.location false
  | edit e =>
      exact Run.endsWith_goTo
        (Run.endsWith_settling isOpen (e.relocate run.screen.scope run.screen.location) true)
  | delete => exact Run.endsWith_batching isOpen _
  | disassociate => exact Run.endsWith_batching isOpen _

theorem after_launch {run : Run} (isOpen : run.isOpen = true) (task : Task) :
    ∃ n, run.after (.launch task :: (List.replicate n [Event.release, .resume]).flatten)
      = (run.step task.event).1 := by
  obtain ⟨y, hleads, hrun, -⟩ := stepwise_eq isOpen task
  obtain ⟨n, hn⟩ := hleads.exists_after
  refine ⟨n, ?_⟩
  rw [Run.after_cons, ← hn, hrun]

end AdminConsole.Screen
