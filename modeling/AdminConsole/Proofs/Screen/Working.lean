/-
# `Proofs.Screen.Working` — a screen is at work while something is under way

Whatever is launched, resumed, dropped and cancelled: the screen deletes exactly
while a batch is under way, and it loads exactly while the newest of the fetches is
(`at_work_iff`).  So nothing that is given up leaves the screen at work for ever.

The fetches under way, those begun by hand and that of an operation, are calls over
one request state (`requests`).  Each step starts one of them, takes one away or
leaves them as they are, and what this does to the flag is known of calls
(`Request.Honest`).  Operations that are run to their end need no steps of their
own: they come to the end of those that are taken step by step.
-/
import AdminConsole.Proofs.Request.Loading
import AdminConsole.Proofs.Screen.Stepwise
import AdminConsole.Proofs.Screen.Turns

namespace AdminConsole.Screen

open Request (Honest)

namespace Run

/-! ## What is under way -/

/-- The calls of a screen: fetches begun by hand have names, that of an operation has none. -/
abbrev PageCall := Request.Call (Option String) Page ApiError

/-- The fetches begun by hand, as calls. -/
def callsByHand (run : Run) : List PageCall :=
  run.begun.map fun b => ⟨some b.id, b.generation, none⟩

/-- The fetch of the operation under way, as a call. -/
def callOf : Standing → List PageCall
  | .busy (.fetching generation _ _) => [⟨none, generation, none⟩]
  | _ => []

/-- The fetches under way, over the state of the screen. -/
def requests (run : Run) : Request.Run (Option String) Page ApiError :=
  ⟨run.screen.fetch, callOf run.standing ++ run.callsByHand⟩

/-- The batch under way. -/
def charge? (run : Run) : Option Charge :=
  match run.standing with
  | .busy (.batching charge _) => some charge
  | _ => none

/-- A run whose screen is at work exactly while something is under way. -/
structure Accounted (run : Run) : Prop where
  fetches : Honest run.requests
  deleting : run.screen.deletion.isLoading = run.charge?.isSome
  newest : ∀ charge, run.charge? = some charge →
    run.screen.deletion.generation = charge.generation

variable {run : Run}

theorem Accounted.of_no_batch (fetches : Honest run.requests)
    (deleting : run.screen.deletion.isLoading = false) (hcharge : run.charge? = none) :
    run.Accounted where
  fetches := fetches
  deleting := by
    rw [hcharge, deleting]
    rfl
  newest charge hc := by
    rw [hcharge] at hc
    cases hc

/-! ### Calls that go away -/

section Others

variable (state : Request Page ApiError) (standing : Standing) (run : Run)

theorem id_of_mem_callOf {c : PageCall} (h : c ∈ callOf standing) : c.id = none := by
  simp only [callOf] at h
  split at h
  · rw [List.mem_singleton.mp h]
  · cases h

theorem others_none :
    Request.Run.others ⟨state, callOf standing ++ run.callsByHand⟩ none = run.callsByHand := by
  simp only [Request.Run.others]
  rw [List.filter_append, List.filter_eq_nil_iff.mpr, List.filter_eq_self.mpr]
  · rfl
  · intro c hc
    obtain ⟨b, -, rfl⟩ := List.mem_map.mp hc
    rfl
  · intro c hc
    rw [id_of_mem_callOf standing hc]
    exact Bool.false_ne_true

theorem others_some (id : String) :
    Request.Run.others ⟨state, callOf standing ++ run.callsByHand⟩ (some id)
      = callOf standing ++ { run with begun := run.others id }.callsByHand := by
  simp only [Request.Run.others]
  rw [List.filter_append, List.filter_eq_self.mpr]
  · refine congrArg _ ?_
    simp only [callsByHand, others, List.filter_map]
    refine congrArg _ (List.filter_congr fun b _ => ?_)
    rw [Bool.eq_iff_iff]
    simp
  · intro c hc
    rw [id_of_mem_callOf standing hc]
    rfl

end Others

/-! ## Operations under way -/

/-- Nothing that the operation of a run has started is under way any more. -/
structure Clear (run : Run) : Prop where
  fetches : Honest ⟨run.screen.fetch, run.callsByHand⟩
  deleting : run.screen.deletion.isLoading = false

theorem Clear.accounted (h : run.Clear) {next : Run} (hfetch : next.screen.fetch = run.screen.fetch)
    (hbegun : next.begun = run.begun) (hdeletion : next.screen.deletion = run.screen.deletion)
    (hcalls : callOf next.standing = []) (hcharge : next.charge? = none) : next.Accounted := by
  refine .of_no_batch ?_ (hdeletion ▸ h.deleting) hcharge
  simp only [requests, callsByHand]
  rw [hcalls, hfetch, hbegun]
  exact h.fetches

theorem Clear.endFetch (h : run.Clear) (batch : Option (Batch.Outcome ResourceId))
    (how : Settlement) : (run.endFetch batch how).run.Accounted := by
  cases batch <;> exact h.accounted rfl rfl rfl rfl rfl

/-- The newest fetch settles and is under way no more. -/
theorem honest_settled {calls : List PageCall} {c : PageCall} {r : Request Page ApiError}
    (h : Honest ⟨r, calls⟩) (hc : c ∈ calls) (hnewest : r.generation = c.generation)
    (reply : Except ApiError Page) :
    Honest ⟨r.accept reply, Request.Run.others ⟨r, calls⟩ c.id⟩ := by
  refine h.lowered hc (beq_iff_eq.mpr hnewest) (Request.Run.generation_accept r reply) ?_
  cases reply <;> rfl

theorem accounted_onFetch (run : Run)
    (hfetches : Honest ⟨run.screen.fetch,
      (⟨none, run.screen.fetch.generation, none⟩ :: run.callsByHand : List PageCall)⟩)
    (deleting : run.screen.deletion.isLoading = false) (flight : Flight Page)
    (batch : Option (Batch.Outcome ResourceId)) :
    (run.onFetch run.screen.fetch.generation flight batch).run.Accounted := by
  simp only [onFetch]
  cases flight.outcome? with
  | some reply =>
      simp only [settle_newest]
      have hsettled : Honest ⟨run.screen.fetch.accept reply, Request.Run.others ⟨run.screen.fetch,
          callOf (.busy (.fetching run.screen.fetch.generation flight batch)) ++ run.callsByHand⟩
            none⟩ := honest_settled hfetches List.mem_cons_self rfl reply
      rw [others_none] at hsettled
      refine Clear.endFetch ?_ batch _
      exact ⟨hsettled, deleting⟩
  | none => exact .of_no_batch hfetches deleting rfl

theorem Clear.goFetch (h : run.Clear) (batch : Option (Batch.Outcome ResourceId)) :
    (run.goFetch batch).run.Accounted := by
  have hstarted : Honest ⟨run.screen.fetch.start, Request.Run.others ⟨run.screen.fetch,
      callOf .free ++ run.callsByHand⟩ none ++
        [⟨none, run.screen.fetch.generation + 1, none⟩]⟩ := h.fetches.start none
  rw [others_none] at hstarted
  exact accounted_onFetch { run with
      screen := run.screen.startFetch
      memory := (Flight.launch run.screen.startFetch.pagePlan run.memory).2 }
    (hstarted.perm (List.perm_append_singleton _ _)) h.deleting _ batch

theorem Clear.goTo (h : run.Clear) (search : String) (batch : Option (Batch.Outcome ResourceId)) :
    (run.goTo search batch).run.Accounted :=
  have hmoved : (run.withScreen (run.screen.moveTo search)).Clear := ⟨h.fetches, h.deleting⟩
  hmoved.goFetch batch

theorem Clear.goAfter (h : run.Clear) (outcome : Batch.Outcome ResourceId) :
    (run.goAfter outcome).run.Accounted := by
  simp only [Run.goAfter]
  cases outcome.followUp with
  | navigate search => exact h.goTo search (some outcome)
  | refetched => exact h.goFetch (some outcome)
  | abandoned => exact h.accounted rfl rfl rfl rfl rfl

theorem accounted_onBatch (run : Run) {charge : Charge}
    (hfetches : Honest ⟨run.screen.fetch, run.callsByHand⟩)
    (deleting : run.screen.deletion.isLoading = true)
    (hnewest : run.screen.deletion.generation = charge.generation)
    (flight : Flight (List (Batch.ItemOutcome ResourceId))) :
    (run.onBatch charge flight).run.Accounted := by
  cases hflight : flight.outcome? with
  | some reply =>
      rw [Flight.eq_landed hflight, onBatch_landed run hnewest reply]
      refine Clear.goAfter ?_ _
      refine ⟨hfetches, ?_⟩
      show (run.screen.deletion.accept _).isLoading = false
      cases Batch.check _ <;> rfl
  | none =>
      simp only [onBatch, hflight]
      refine ⟨hfetches, deleting, ?_⟩
      rintro _ ⟨⟩
      exact hnewest

theorem Clear.goBatch (h : run.Clear) (call : ResourceId → Call Unit) :
    (run.goBatch call).run.Accounted :=
  accounted_onBatch { run with
      screen := { run.screen with deletion := run.screen.deletion.start }
      memory := (Flight.launch (fanOut call run.screen.selectedIds) run.memory).2 }
    h.fetches rfl rfl _

theorem Clear.launch (h : run.Clear) (task : Task) : (run.launch task).run.Accounted := by
  cases task with
  | navigate search => exact h.goTo search none
  | fetch => exact h.goFetch none
  | edit e => exact h.goTo _ none
  | delete => exact h.goBatch _
  | disassociate => exact h.goBatch _

/-! ## Steps -/

theorem Accounted.clear (h : run.Accounted) (isOpen : run.isOpen = true) : run.Clear := by
  have hfetches := h.fetches
  have hdeleting := h.deleting
  simp only [requests, charge?] at hfetches hdeleting
  rw [standing_of_isOpen isOpen] at hfetches hdeleting
  exact ⟨hfetches, hdeleting⟩

theorem Accounted.resume (h : run.Accounted) {work : Work} (hbusy : run.standing = .busy work) :
    (run.resume work).run.Accounted := by
  have hfetches := h.fetches
  have hdeleting := h.deleting
  have hcharge := h.newest
  simp only [requests, charge?] at hfetches hdeleting hcharge
  rw [hbusy] at hfetches hdeleting hcharge
  cases work with
  | batching charge flight =>
      exact accounted_onBatch { run with memory := (flight.poll run.memory).2 } hfetches hdeleting
        (hcharge charge rfl) _
  | fetching generation flight batch =>
      simp only [Run.resume]
      split
      next hnewest =>
          have hgeneration : run.screen.fetch.generation = generation := beq_iff_eq.mp hnewest
          subst hgeneration
          exact accounted_onFetch { run with memory := (flight.poll run.memory).2 } hfetches
            hdeleting _ batch
      next hstale =>
          -- a fetch that has been overtaken goes away unnoticed
          have hothers : Honest ⟨run.screen.fetch, Request.Run.others ⟨run.screen.fetch,
              callOf (.busy (.fetching generation flight batch)) ++ run.callsByHand⟩ none⟩ :=
            hfetches.without List.mem_cons_self (Bool.eq_false_iff.mpr hstale)
          rw [others_none] at hothers
          exact Clear.endFetch ⟨hothers, hdeleting⟩ batch _

theorem Accounted.giveUp (h : run.Accounted) {work : Work} (hbusy : run.standing = .busy work) :
    Accounted { run with screen := run.abandoned work, standing := .free } := by
  have hfetches := h.fetches
  have hdeleting := h.deleting
  have hcharge := h.newest
  simp only [requests, charge?] at hfetches hdeleting hcharge
  rw [hbusy] at hfetches hdeleting hcharge
  cases work with
  | batching charge flight =>
      have hnewest : run.screen.deletion.isNewest charge.generation = true :=
        beq_iff_eq.mpr (hcharge charge rfl)
      have habandoned : (run.screen.deletion.abandon charge.generation).state
          = { run.screen.deletion with isLoading := false } := by
        simp only [Request.abandon]
        rw [hnewest, hdeleting]
        rfl
      refine .of_no_batch hfetches ?_ rfl
      show (run.screen.deletion.abandon charge.generation).state.isLoading = false
      rw [habandoned]
  | fetching generation flight batch =>
      have hdropped : Honest ⟨(run.screen.fetch.abandon generation).state,
          Request.Run.others ⟨run.screen.fetch,
            callOf (.busy (.fetching generation flight batch)) ++ run.callsByHand⟩ none⟩ :=
        hfetches.drop List.mem_cons_self
      rw [others_none] at hdropped
      exact .of_no_batch hdropped hdeleting rfl

/-! ### Fetches begun by hand -/

theorem others_requeued (run : Run) (b : Begun) :
    { run with begun := run.others b.id ++ [b] }.others b.id = run.others b.id := by
  simp only [others]
  rw [List.filter_append, List.filter_filter]
  simp

theorem Accounted.advance (h : run.Accounted) {state : Request Page ApiError} {memory : Memory}
    (id : String) (flight : Flight Page)
    (hrequeued : Honest ⟨state, callOf run.standing ++ (run.others id).map
      (fun b => ⟨some b.id, b.generation, none⟩) ++ [⟨some id, state.generation, none⟩]⟩) :
    ({ run with screen := { run.screen with fetch := state }, memory }.advance id
      state.generation flight).1.Accounted := by
  let waiting : Begun := ⟨id, state.generation, flight⟩
  have hcalls : callOf run.standing ++ (run.others id).map
      (fun b => ⟨some b.id, b.generation, none⟩) ++ [⟨some id, state.generation, none⟩]
        = callOf run.standing ++ { run with begun := run.others id ++ [waiting] }.callsByHand := by
    simp only [callsByHand, List.map_append, List.append_assoc]
    rfl
  rw [hcalls] at hrequeued
  simp only [Run.advance]
  cases flight.outcome? with
  | none => exact ⟨hrequeued, h.deleting, h.newest⟩
  | some reply =>
      simp only [settle_newest]
      have hmem : (⟨some id, state.generation, none⟩ : PageCall) ∈ callOf run.standing ++
          { run with begun := run.others id ++ [waiting] }.callsByHand := by
        rw [← hcalls]
        exact List.mem_append_right _ (List.mem_singleton.mpr rfl)
      have hsettled := honest_settled hrequeued hmem rfl reply
      rw [others_some, others_requeued run waiting] at hsettled
      exact ⟨hsettled, h.deleting, h.newest⟩

theorem Accounted.begin (h : run.Accounted) (id : String) : (run.beginFetch id).1.Accounted := by
  have hstarted : Honest ⟨run.screen.fetch.start, Request.Run.others ⟨run.screen.fetch,
      callOf run.standing ++ run.callsByHand⟩ (some id) ++
        [⟨some id, run.screen.fetch.generation + 1, none⟩]⟩ := h.fetches.start (some id)
  rw [others_some] at hstarted
  exact h.advance id _ hstarted

theorem mem_requests {b : Begun} (hb : b ∈ run.begun) :
    (⟨some b.id, b.generation, none⟩ : PageCall) ∈ run.requests.calls :=
  List.mem_append_right _ (List.mem_map_of_mem hb)

theorem Accounted.poll (h : run.Accounted) {b : Begun} (hb : b ∈ run.begun) :
    (run.pollFetch b).1.Accounted := by
  simp only [Run.pollFetch]
  split
  next hnewest =>
      have hrequeued : Honest ⟨run.screen.fetch, Request.Run.others ⟨run.screen.fetch,
          callOf run.standing ++ run.callsByHand⟩ (some b.id) ++
            [⟨some b.id, b.generation, none⟩]⟩ := h.fetches.requeue (mem_requests hb)
      rw [others_some, ← beq_iff_eq.mp hnewest] at hrequeued
      rw [← beq_iff_eq.mp hnewest]
      exact h.advance b.id _ hrequeued
  next hstale =>
      have hothers : Honest ⟨run.screen.fetch, Request.Run.others ⟨run.screen.fetch,
          callOf run.standing ++ run.callsByHand⟩ (some b.id)⟩ :=
        h.fetches.without (mem_requests hb) (Bool.eq_false_iff.mpr hstale)
      rw [others_some] at hothers
      exact ⟨hothers, h.deleting, h.newest⟩

theorem Accounted.drop (h : run.Accounted) {b : Begun} (hb : b ∈ run.begun) :
    (run.dropFetch b).1.Accounted := by
  have hdropped : Honest ⟨(run.screen.fetch.abandon b.generation).state,
      Request.Run.others ⟨run.screen.fetch, callOf run.standing ++ run.callsByHand⟩ (some b.id)⟩ :=
    h.fetches.drop (mem_requests hb)
  rw [others_some] at hdropped
  exact ⟨hdropped, h.deleting, h.newest⟩

/-! ### All steps -/

theorem Accounted.progress (h : run.Accounted) {e : Event} {p : Progress}
    (hp : run.progress? e = some p) : p.run.Accounted := by
  obtain ⟨task, -, isOpen, rfl⟩ | ⟨work, -, hbusy, rfl⟩ := progress?_cases hp
  · exact (h.clear isOpen).launch task
  · exact h.resume hbusy

/-- An event that does not let an operation go on, or that does and finds one. -/
theorem Accounted.stepwise (h : run.Accounted) {e : Event}
    (hidle : run.progress? e = none → (run.step e).1 = run) : (run.step e).1.Accounted := by
  cases hp : run.progress? e with
  | none =>
      rw [hidle hp]
      exact h
  | some p =>
      rw [step_of_progress? hp]
      exact h.progress hp

theorem Accounted.launches (h : run.Accounted) (task : Task) :
    (run.step (.launch task)).1.Accounted := by
  refine h.stepwise fun hidle => ?_
  simp only [Run.step, hidle]

theorem Accounted.resumes (h : run.Accounted) : (run.step .resume).1.Accounted := by
  refine h.stepwise fun hidle => ?_
  simp only [Run.step, hidle]

theorem Accounted.release (h : run.Accounted) : (run.step .release).1.Accounted := by
  show (run.releaseOne).1.Accounted
  simp only [releaseOne]
  cases run.memory.release? with
  | none => exact h
  | some memory => exact ⟨h.fetches, h.deleting, h.newest⟩

theorem Accounted.leads {x y : Run × Seen} (hx : x.1.Accounted) (hxy : Leads x y) :
    y.1.Accounted := by
  induction hxy with
  | refl => exact hx
  | round _ ih => exact ih.release.resumes

/-- An operation that is run to its end comes to the end of one that is taken step by step. -/
theorem Accounted.task (h : run.Accounted) (isOpen : run.isOpen = true) (task : Task) :
    (run.screenStep task.event).1.Accounted := by
  obtain ⟨y, hleads, hrun, -⟩ := stepwise_eq isOpen task
  have hstep : run.step task.event = run.screenStep task.event := by
    cases task <;> exact if_pos isOpen
  rw [← hstep, ← hrun]
  exact (h.launches task).leads hleads

theorem Accounted.onScreen (h : run.Accounted) (isOpen : run.isOpen = true) (e : Event) :
    (run.screenStep e).1.Accounted := by
  cases e with
  | navigate search => exact h.task isOpen (.navigate search)
  | fetch => exact h.task isOpen .fetch
  | edit e => exact h.task isOpen (.edit e)
  | delete => exact h.task isOpen .delete
  | disassociate => exact h.task isOpen .disassociate
  | dismiss => exact ⟨h.fetches.same rfl rfl, h.deleting, h.newest⟩
  | close => exact .of_no_batch (h.clear isOpen).fetches.cancel rfl rfl
  | selectRow i =>
      simp only [screenStep]
      cases run.screen.row? i with
      | some item => exact ⟨h.fetches, h.deleting, h.newest⟩
      | none => exact h
  | _ => exact ⟨h.fetches, h.deleting, h.newest⟩

theorem Accounted.step (h : run.Accounted) (e : Event) : (run.step e).1.Accounted := by
  have honScreen : run.step e = (if run.isOpen then run.screenStep e else (run, .only .nothing)) →
      (run.step e).1.Accounted := by
    intro hstep
    rw [hstep]
    split
    next isOpen => exact h.onScreen isOpen e
    next => exact h
  cases e with
  | extend more => exact ⟨h.fetches, h.deleting, h.newest⟩
  | begin id => exact h.begin id
  | poll id =>
      simp only [Run.step]
      cases hb : run.find? id with
      | some b => exact h.poll (List.mem_of_find?_eq_some hb)
      | none => exact h
  | drop id =>
      simp only [Run.step]
      cases hb : run.find? id with
      | some b => exact h.drop (List.mem_of_find?_eq_some hb)
      | none => exact h
  | release => exact h.release
  | cancel => exact ⟨h.fetches.cancel, h.deleting, h.newest⟩
  | launch task => exact h.launches task
  | resume => exact h.resumes
  | giveUp =>
      simp only [Run.step]
      split
      next work hbusy => exact h.giveUp hbusy
      next => exact h
  | _ => exact honScreen rfl

theorem Accounted.after (h : run.Accounted) (events : List Event) :
    (run.after events).Accounted := by
  induction events generalizing run with
  | nil => exact h
  | cons e events ih =>
      rw [after_cons]
      exact ih (h.step e)

theorem accounted_initial (k : Kind) (pageSize : Nat) (endpoint : Endpoint) (memory : Memory) :
    (Run.initial (ofEndpoint k pageSize endpoint) memory).Accounted :=
  .of_no_batch (Honest.initial Page.empty) rfl rfl

end Run

/-! ## The phase -/

theorem phase_eq_deleting_iff (s : Screen) :
    s.phase = .deleting ↔ s.deletion.isLoading = true := by
  simp only [phase]
  cases s.deletion.isLoading with
  | true => simp
  | false => grind

theorem phase_eq_loading_iff (s : Screen) :
    s.phase = .loading ↔ s.deletion.isLoading = false ∧ s.fetch.isLoading = true := by
  simp only [phase]
  cases s.deletion.isLoading with
  | true => simp
  | false => grind

/-- **A screen is at work exactly while something is under way.**  In every run, whatever is launched,
resumed, given up, begun by hand, dropped and cancelled on the way: the screen deletes exactly while a
batch is under way, and it loads exactly while none is and the newest fetch is among those under way. -/
theorem at_work_iff (k : Kind) (pageSize : Nat) (endpoint : Endpoint) (memory : Memory)
    (events : List Event) :
    let run := (Run.initial (ofEndpoint k pageSize endpoint) memory).after events
    (run.screen.phase = .deleting ↔ run.charge?.isSome = true) ∧
    (run.screen.phase = .loading ↔ run.charge? = none ∧
      ∃ c ∈ run.requests.calls, c.generation = run.screen.fetch.generation) := by
  intro run
  have h : run.Accounted := (Run.accounted_initial k pageSize endpoint memory).after events
  constructor
  · rw [phase_eq_deleting_iff, h.deleting]
  · rw [phase_eq_loading_iff, h.deleting]
    refine and_congr ?_ h.fetches.loading
    rw [Option.isSome_eq_false_iff, Option.isNone_iff_eq_none]

end AdminConsole.Screen
