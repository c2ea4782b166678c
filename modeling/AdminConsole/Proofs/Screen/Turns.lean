/-
# `Proofs.Screen.Turns` — what a step does to the fetch of a screen

A step does one of seven things to the fetch of the screen (`Turns`), and it is
known which of them starts a fetch and which of them brings one to its end
(`turns_step`).  Operations are run to their end, or they are launched and go on
step by step; a step may then start a fetch, end one, or do both (`Fits`).
-/
import AdminConsole.Proofs.Screen.InStep

namespace AdminConsole.Screen

/-! ## The fetches of a run and their ends -/

/-- Whether an event gives up fetches that are on their way. -/
def Event.givesUp : Event → Bool
  | .drop _ => true
  | .cancel => true
  | .close => true
  | .giveUp => true
  | _ => false

/-- Whether an answer tells of no fetch that has ended with success or failure. -/
def Answer.silent : Answer → Bool
  | .settled how => how == .superseded
  | .batch _ => false
  | _ => true

namespace Run

/-- Whether a step starts a fetch. -/
def starts (run : Run) (e : Event) : Bool :=
  match run.progress? e, e with
  | some p, _ => p.started
  | none, .begin _ => true
  | none, e => run.isOpen && (run.fetch? e).isSome

/-- How the fetch ends that a step brings to its end.  One that has been overtaken ends without
success or failure. -/
def verdict? (run : Run) (e : Event) : Option Settlement :=
  match run.progress? e with
  | some p => p.ended
  | none => match (run.step e).2.answer with
    | .settled .succeeded => some .succeeded
    | .settled .failed => some .failed
    | .batch _ => (run.fetch? e).map fun f => Request.outcomeOf f.reply
    | _ => none

/-- How the fetches of a run end, in their order. -/
def verdicts (run : Run) : List Event → List Settlement
  | [] => []
  | e :: events => (run.verdict? e).toList ++ (run.step e).1.verdicts events

/-- How many fetches a run starts. -/
def started (run : Run) : List Event → Nat
  | [] => 0
  | e :: events => (run.starts e).toNat + (run.step e).1.started events

end Run

/-! ## What a step does to the fetch -/

/-- What an event may do to the fetch of a screen, whether it has started a fetch, and how one has
ended. -/
inductive Turns (e : Event) (r : Request Page ApiError) :
    Bool → Option Settlement → Request Page ApiError → Prop
  | fetched (reply : Except ApiError Page) :
      Turns e r true (some (Request.outcomeOf reply)) (r.start.accept reply)
  | started : Turns e r true none r.start
  | settled (reply : Except ApiError Page) :
      Turns e r false (some (Request.outcomeOf reply)) (r.accept reply)
  | dismissed : e = .dismiss → Turns e r false none r.dismiss.state
  | dropped : e.givesUp = true → Turns e r false none { r with isLoading := false }
  | cancelled : e.givesUp = true → Turns e r false none r.cancel
  | stays : Turns e r false none r

/-- A step turns the fetch of the screen. -/
def Run.TurnsBy (run : Run) (e : Event) : Prop :=
  Turns e run.screen.fetch (run.starts e) (run.verdict? e) (run.step e).1.screen.fetch

section Steps

variable {run : Run} {e : Event}

theorem fetch_fetched (s : Screen) (reply : Except ApiError Page) :
    (s.fetched reply).fetch = s.fetch.start.accept reply := by
  cases reply with
  | ok page => rw [fetched_ok]; rfl
  | error err => rw [fetched_error]; rfl

theorem settle_newest (r : Request Page ApiError) (reply : Except ApiError Page) :
    r.settle r.generation reply = (Request.outcomeOf reply, ⟨r.accept reply, true⟩) :=
  if_pos (beq_self_eq_true r.generation)

theorem verdict?_of_settled {reply : Except ApiError Page} (hnone : run.progress? e = none)
    (h : (run.step e).2.answer = .settled (Request.outcomeOf reply)) :
    run.verdict? e = some (Request.outcomeOf reply) := by
  simp only [Run.verdict?, hnone]
  rw [h]
  cases reply <;> rfl

theorem advance_newest (run : Run) (id : String) (flight : Flight Page) :
    let next := run.advance id run.screen.fetch.generation flight
    (∃ reply, next.1.screen.fetch = run.screen.fetch.accept reply ∧
        next.2.answer = .settled (Request.outcomeOf reply)) ∨
      (next.1.screen.fetch = run.screen.fetch ∧ next.2.answer = .pending) := by
  intro next
  simp only [next, Run.advance]
  cases flight.outcome? with
  | some reply =>
      refine .inl ⟨reply, ?_, ?_⟩
      · show (run.screen.fetch.settle run.screen.fetch.generation reply).2.state = _
        rw [settle_newest]
      · show Answer.settled (run.screen.fetch.settle run.screen.fetch.generation reply).1 = _
        rw [settle_newest]
  | none => exact .inr ⟨rfl, rfl⟩

theorem verdict?_of_silent (hnone : run.progress? e = none)
    (h : (run.step e).2.answer.silent = true) : run.verdict? e = none := by
  simp only [Run.verdict?, hnone]
  split
  next hanswer => rw [hanswer] at h; cases h
  next hanswer => rw [hanswer] at h; cases h
  next hanswer => rw [hanswer] at h; cases h
  next => rfl

theorem turns_silent {next : Run × Seen} (hnone : run.progress? e = none)
    (hstarts : run.starts e = false) (hstep : run.step e = next)
    (hsilent : next.2.answer.silent = true)
    (hturns : Turns e run.screen.fetch false none next.1.screen.fetch) : run.TurnsBy e := by
  subst hstep
  simp only [Run.TurnsBy]
  rw [hstarts, verdict?_of_silent hnone hsilent]
  exact hturns

theorem Turns.abandon (hgivesUp : e.givesUp = true) (r : Request Page ApiError) (generation : Nat) :
    Turns e r false none (r.abandon generation).state := by
  simp only [Request.abandon]
  split
  · exact .dropped hgivesUp
  · exact .stays

/-! ### Fetches begun by hand -/

theorem turns_begin (run : Run) (id : String) : run.TurnsBy (.begin id) := by
  let launched := Flight.launch run.screen.startFetch.pagePlan run.memory
  let begun : Run := { run with screen := run.screen.startFetch, memory := launched.2 }
  have hstep : run.step (.begin id) = begun.advance id begun.screen.fetch.generation launched.1 :=
    rfl
  obtain ⟨reply, hfetch, hanswer⟩ | ⟨hfetch, hanswer⟩ := advance_newest begun id launched.1
  · rw [← hstep] at hfetch hanswer
    simp only [Run.TurnsBy]
    rw [verdict?_of_settled rfl hanswer, hfetch]
    exact .fetched reply
  · rw [← hstep] at hfetch hanswer
    simp only [Run.TurnsBy]
    rw [verdict?_of_silent rfl (by rw [hanswer]; rfl), hfetch]
    exact .started

theorem turns_poll (run : Run) (id : String) : run.TurnsBy (.poll id) := by
  have hstarts : run.starts (.poll id) = false := Bool.and_false _
  cases hfind : run.find? id with
  | none =>
      have hstep : run.step (.poll id) = (run, .only .noSuchCall) := by
        simp only [Run.step, hfind]
      exact turns_silent rfl hstarts hstep rfl .stays
  | some b =>
      have hstep : run.step (.poll id) = run.pollFetch b := by
        simp only [Run.step, hfind]
      by_cases hnewest : run.screen.fetch.isNewest b.generation = true
      · let polled := b.flight.poll run.memory
        let after : Run := { run with memory := polled.2 }
        have hgeneration : run.screen.fetch.generation = b.generation := beq_iff_eq.mp hnewest
        have hpoll : run.pollFetch b = after.advance b.id after.screen.fetch.generation polled.1 := by
          simp only [Run.pollFetch]
          rw [if_pos hnewest, ← hgeneration]
        rw [hpoll] at hstep
        obtain ⟨reply, hfetch, hanswer⟩ | ⟨hfetch, hanswer⟩ := advance_newest after b.id polled.1
        · rw [← hstep] at hfetch hanswer
          simp only [Run.TurnsBy]
          rw [verdict?_of_settled rfl hanswer, hfetch, hstarts]
          exact .settled reply
        · refine turns_silent rfl hstarts hstep (by rw [hanswer]; rfl) ?_
          rw [hfetch]
          exact .stays
      · -- a fetch that has been overtaken ends without touching the screen
        have hpoll : run.pollFetch b
            = ({ run with begun := run.others b.id }, .only (.settled .superseded)) := by
          simp only [Run.pollFetch]
          rw [if_neg hnewest]
        rw [hpoll] at hstep
        exact turns_silent rfl hstarts hstep rfl .stays

theorem turns_drop (run : Run) (id : String) : run.TurnsBy (.drop id) := by
  have hstarts : run.starts (.drop id) = false := Bool.and_false _
  cases hfind : run.find? id with
  | none =>
      have hstep : run.step (.drop id) = (run, .only .nothing) := by
        simp only [Run.step, hfind]
      exact turns_silent rfl hstarts hstep rfl .stays
  | some b =>
      have hstep : run.step (.drop id) = run.dropFetch b := by
        simp only [Run.step, hfind]
      exact turns_silent rfl hstarts hstep rfl (.abandon rfl _ b.generation)

theorem turns_release (run : Run) : run.TurnsBy .release := by
  have hstarts : run.starts .release = false := Bool.and_false _
  have hstep : run.step .release = run.releaseOne := rfl
  cases hrelease : run.memory.release? with
  | none =>
      have hreleased : run.releaseOne = (run, .only (.released false)) := by
        simp only [Run.releaseOne, hrelease]
      rw [hreleased] at hstep
      exact turns_silent rfl hstarts hstep rfl .stays
  | some memory =>
      have hreleased : run.releaseOne = ({ run with memory }, .only (.released true)) := by
        simp only [Run.releaseOne, hrelease]
      rw [hreleased] at hstep
      exact turns_silent rfl hstarts hstep rfl .stays

/-! ### Operations of the screen -/

theorem turns_settling {moved : Bool} {search : String} (hnone : run.progress? e = none)
    (hstarts : run.starts e = true)
    (hstep : run.step e = run.settling moved (load memoryService (run.screen.moveTo search))) :
    run.TurnsBy e := by
  let f : Fetch := ⟨run.screen.moveTo search, run.memory⟩
  have hanswer : (run.step e).2.answer = .settled (Request.outcomeOf f.reply) := by
    rw [hstep]
    show Answer.settled
      (f.screen.startFetch.fetch.settle f.screen.startFetch.fetch.generation f.reply).1 = _
    rw [settle_newest]
  have hfetch : (run.step e).1.screen.fetch = run.screen.fetch.start.accept f.reply := by
    rw [hstep]
    exact fetch_fetched f.screen f.reply
  simp only [Run.TurnsBy]
  rw [hstarts, verdict?_of_settled hnone hanswer, hfetch]
  exact .fetched f.reply

theorem turns_batching {call : ResourceId → Call Unit} (hnone : run.progress? e = none)
    (hstarts : run.starts e = true)
    (hfetch? : run.fetch? e = some (run.fetchAfter call))
    (hstep : run.step e = run.batching (runBatch memoryService run.screen call)) :
    run.TurnsBy e := by
  have hverdict : run.verdict? e = some (Request.outcomeOf (run.fetchAfter call).reply) := by
    simp only [Run.verdict?, hnone]
    rw [hstep, hfetch?]
    rfl
  have hfetch : (run.step e).1.screen.fetch
      = run.screen.fetch.start.accept (run.fetchAfter call).reply := by
    rw [hstep]
    show (runBatch memoryService run.screen call ⟨run.memory, []⟩).1.1.fetch = _
    rw [(runBatch_world run call).1]
    exact fetch_fetched (run.settled call) _
  simp only [Run.TurnsBy]
  rw [hstarts, hverdict, hfetch]
  exact .fetched _

/-- An event that needs the screen does nothing once it is closed. -/
theorem turns_onScreen (hnone : run.progress? e = none)
    (hstep : run.step e = if run.isOpen then run.screenStep e else (run, .only .nothing))
    (hstarts : run.starts e = (run.isOpen && (run.fetch? e).isSome))
    (h : run.step e = run.screenStep e → run.starts e = (run.fetch? e).isSome → run.TurnsBy e) :
    run.TurnsBy e := by
  cases hopen : run.isOpen with
  | false =>
      rw [hopen, if_neg Bool.false_ne_true] at hstep
      rw [hopen, Bool.false_and] at hstarts
      exact turns_silent hnone hstarts hstep rfl .stays
  | true =>
      rw [hopen, if_pos rfl] at hstep
      rw [hopen, Bool.true_and] at hstarts
      exact h hstep hstarts

/-! ### Operations taken step by step -/

/-- An operation that has gone on has turned the fetch, which was `r`, and shows no phases of its
own. -/
structure Fits (e : Event) (r : Request Page ApiError) (p : Run.Progress) : Prop where
  turns : Turns e r p.started p.ended p.run.screen.fetch
  silent : p.seen.phases = []

theorem fits_await {r : Request Page ApiError} (hr : run.screen.fetch = r) (work : Work) :
    Fits e r (run.await work) := by
  subst hr
  exact ⟨.stays, rfl⟩

theorem fits_finish {r : Request Page ApiError} (hr : run.screen.fetch = r) (answer : Answer) :
    Fits e r (run.finish answer none) := by
  subst hr
  exact ⟨.stays, rfl⟩

theorem endFetch_eq (run : Run) (batch : Option (Batch.Outcome ResourceId)) (how : Settlement) :
    (run.endFetch batch how).run.screen.fetch = run.screen.fetch ∧
      (run.endFetch batch how).started = false ∧
      (run.endFetch batch how).ended = (if how = .superseded then none else some how) ∧
      (run.endFetch batch how).seen.phases = [] := by
  cases batch <;> exact ⟨rfl, rfl, rfl, rfl⟩

theorem onFetch_newest (run : Run) (flight : Flight Page)
    (batch : Option (Batch.Outcome ResourceId)) :
    let p := run.onFetch run.screen.fetch.generation flight batch
    p.started = false ∧ p.seen.phases = [] ∧
      ((∃ reply, p.run.screen.fetch = run.screen.fetch.accept reply ∧
          p.ended = some (Request.outcomeOf reply)) ∨
        (p.run.screen.fetch = run.screen.fetch ∧ p.ended = none)) := by
  intro p
  simp only [p, Run.onFetch]
  cases flight.outcome? with
  | some reply =>
      simp only [settle_newest]
      obtain ⟨hfetch, hstarted, hended, hphases⟩ := endFetch_eq
        (run.withScreen { run.screen with fetch := run.screen.fetch.accept reply }) batch
        (Request.outcomeOf reply)
      refine ⟨hstarted, hphases, .inl ⟨reply, hfetch, ?_⟩⟩
      rw [hended]
      cases reply <;> rfl
  | none => exact ⟨rfl, rfl, .inr ⟨rfl, rfl⟩⟩

theorem fits_goFetch {r : Request Page ApiError} (hr : run.screen.fetch = r)
    (batch : Option (Batch.Outcome ResourceId)) : Fits e r (run.goFetch batch) := by
  subst hr
  let launched := Flight.launch run.screen.startFetch.pagePlan run.memory
  let begun : Run := { run with screen := run.screen.startFetch, memory := launched.2 }
  obtain ⟨-, hphases, hends⟩ := onFetch_newest begun launched.1 batch
  refine ⟨?_, hphases⟩
  show Turns e _ true (begun.onFetch _ launched.1 batch).ended
    (begun.onFetch _ launched.1 batch).run.screen.fetch
  obtain ⟨reply, hfetch, hended⟩ | ⟨hfetch, hended⟩ := hends
  · rw [hfetch, hended]
    exact .fetched reply
  · rw [hfetch, hended]
    exact .started

theorem fits_goTo {r : Request Page ApiError} (hr : run.screen.fetch = r) (search : String)
    (batch : Option (Batch.Outcome ResourceId)) : Fits e r (run.goTo search batch) := by
  have h : Fits e r ((run.withScreen (run.screen.moveTo search)).goFetch batch) := by
    refine fits_goFetch ?_ batch
    exact hr
  exact ⟨h.turns, h.silent⟩

theorem fits_goAfter {r : Request Page ApiError} (hr : run.screen.fetch = r)
    (outcome : Batch.Outcome ResourceId) : Fits e r (run.goAfter outcome) := by
  simp only [Run.goAfter]
  cases outcome.followUp with
  | navigate search => exact fits_goTo hr search (some outcome)
  | refetched => exact fits_goFetch hr (some outcome)
  | abandoned =>
      refine fits_finish ?_ (.batch outcome)
      exact hr

theorem fits_onBatch {r : Request Page ApiError} (hr : run.screen.fetch = r) (charge : Charge)
    (flight : Flight (List (Batch.ItemOutcome ResourceId))) :
    Fits e r (run.onBatch charge flight) := by
  simp only [Run.onBatch]
  cases flight.outcome? with
  | some reply =>
      refine fits_goAfter ?_ _
      exact hr
  | none => exact fits_await hr (.batching charge flight)

theorem fits_launch (run : Run) (task : Task) : Fits e run.screen.fetch (run.launch task) := by
  cases task with
  | navigate search => exact fits_goTo rfl search none
  | fetch => exact fits_goFetch rfl none
  | edit edit => exact fits_goTo rfl _ none
  | delete =>
      refine fits_onBatch ?_ _ _
      rfl
  | disassociate =>
      refine fits_onBatch ?_ _ _
      rfl

theorem fits_resume (run : Run) (work : Work) : Fits e run.screen.fetch (run.resume work) := by
  cases work with
  | batching charge flight =>
      refine fits_onBatch ?_ charge _
      rfl
  | fetching generation flight batch =>
      simp only [Run.resume]
      split
      next hnewest =>
          have hgeneration : run.screen.fetch.generation = generation := beq_iff_eq.mp hnewest
          subst hgeneration
          obtain ⟨hstarted, hphases, hends⟩ :=
            onFetch_newest { run with memory := (flight.poll run.memory).2 }
              (flight.poll run.memory).1 batch
          refine ⟨?_, hphases⟩
          obtain ⟨reply, hfetch, hended⟩ | ⟨hfetch, hended⟩ := hends
          · rw [hstarted, hfetch, hended]
            exact .settled reply
          · rw [hstarted, hfetch, hended]
            exact .stays
      next =>
          -- a fetch that has been overtaken ends without touching the state
          obtain ⟨hfetch, hstarted, hended, hphases⟩ := endFetch_eq run batch .superseded
          refine ⟨?_, hphases⟩
          rw [hstarted, hfetch, hended]
          exact .stays

theorem progress?_cases {p : Run.Progress} (h : run.progress? e = some p) :
    (∃ task, e = .launch task ∧ run.isOpen = true ∧ p = run.launch task) ∨
      ∃ work, e = .resume ∧ run.standing = .busy work ∧ p = run.resume work := by
  cases e with
  | launch task =>
      simp only [Run.progress?] at h
      split at h
      next isOpen => exact .inl ⟨task, rfl, isOpen, (Option.some.inj h).symm⟩
      next => cases h
  | resume =>
      simp only [Run.progress?] at h
      split at h
      next work hbusy => exact .inr ⟨work, rfl, hbusy, (Option.some.inj h).symm⟩
      next => cases h
  | _ => cases h

theorem fits_progress? {p : Run.Progress} (h : run.progress? e = some p) :
    Fits e run.screen.fetch p := by
  obtain ⟨task, -, -, rfl⟩ | ⟨work, -, -, rfl⟩ := progress?_cases h
  · exact fits_launch run task
  · exact fits_resume run work

theorem step_of_progress? {p : Run.Progress} (h : run.progress? e = some p) :
    run.step e = (p.run, p.seen) := by
  obtain ⟨task, rfl, -, -⟩ | ⟨work, rfl, -, -⟩ := progress?_cases h
  · simp only [Run.step, h]
  · simp only [Run.step, h]

/-- An event that lets an operation go on does nothing where there is none. -/
theorem turns_stepwise (idle : Answer) (hsilent : idle.silent = true)
    (hstarts : run.progress? e = none → run.starts e = false)
    (hidle : run.progress? e = none → run.step e = (run, .only idle)) : run.TurnsBy e := by
  cases h : run.progress? e with
  | none =>
      exact turns_silent h (hstarts h) (hidle h) hsilent .stays
  | some p =>
      have hstarted : run.starts e = p.started := by simp only [Run.starts, h]
      have hended : run.verdict? e = p.ended := by simp only [Run.verdict?, h]
      simp only [Run.TurnsBy]
      rw [hstarted, hended, step_of_progress? h]
      exact (fits_progress? h).turns

theorem turns_giveUp (run : Run) : run.TurnsBy .giveUp := by
  have hstarts : run.starts .giveUp = false := Bool.and_false _
  cases hstanding : run.standing with
  | busy work =>
      have hstep : run.step .giveUp
          = ({ run with screen := run.abandoned work, standing := .free }, .only .nothing) := by
        simp only [Run.step, hstanding]
      refine turns_silent rfl hstarts hstep rfl ?_
      cases work with
      | batching charge flight => exact .stays
      | fetching generation flight batch => exact .abandon rfl _ generation
  | _ =>
      have hstep : run.step .giveUp = (run, .only .nothing) := by
        simp only [Run.step, hstanding]
      exact turns_silent rfl hstarts hstep rfl .stays

/-- Every step turns the fetch of the screen in one of the ways that are known. -/
theorem turns_step (run : Run) (e : Event) : run.TurnsBy e := by
  cases e with
  | begin id => exact turns_begin run id
  | poll id => exact turns_poll run id
  | drop id => exact turns_drop run id
  | release => exact turns_release run
  | cancel => exact turns_silent rfl (Bool.and_false _) rfl rfl (.cancelled rfl)
  | extend more => exact turns_silent rfl (Bool.and_false _) rfl rfl .stays
  | launch task =>
      refine turns_stepwise .nothing rfl (fun h => ?_) fun h => ?_
      · simp only [Run.starts, h]
        exact Bool.and_false _
      · simp only [Run.step, h]
  | resume =>
      refine turns_stepwise .noSuchCall rfl (fun h => ?_) fun h => ?_
      · simp only [Run.starts, h]
        exact Bool.and_false _
      · simp only [Run.step, h]
  | giveUp => exact turns_giveUp run
  | navigate search =>
      exact turns_onScreen rfl rfl rfl fun hstep hstarts => turns_settling rfl hstarts hstep
  | fetch => exact turns_onScreen rfl rfl rfl fun hstep hstarts => turns_settling rfl hstarts hstep
  | edit e => exact turns_onScreen rfl rfl rfl fun hstep hstarts => turns_settling rfl hstarts hstep
  | delete => exact turns_onScreen rfl rfl rfl fun hstep hstarts => turns_batching rfl hstarts rfl hstep
  | disassociate =>
      exact turns_onScreen rfl rfl rfl fun hstep hstarts => turns_batching rfl hstarts rfl hstep
  | dismiss =>
      exact turns_onScreen rfl rfl rfl fun hstep hstarts =>
        turns_silent rfl hstarts hstep rfl (.dismissed rfl)
  | close =>
      exact turns_onScreen rfl rfl rfl fun hstep hstarts =>
        turns_silent rfl hstarts hstep rfl (.cancelled rfl)
  | selectRow i =>
      refine turns_onScreen rfl rfl rfl fun hstep hstarts => ?_
      cases hrow : run.screen.row? i with
      | some item =>
          have hselect : run.screenStep (.selectRow i) = run.selecting fun s => s.toggle item := by
            simp only [Run.screenStep, hrow]
          rw [hselect] at hstep
          exact turns_silent rfl hstarts hstep rfl .stays
      | none =>
          have hnone : run.screenStep (.selectRow i) = (run, .only .noSuchRow) := by
            simp only [Run.screenStep, hrow]
          rw [hnone] at hstep
          exact turns_silent rfl hstarts hstep rfl .stays
  | _ =>
      exact turns_onScreen rfl rfl rfl fun hstep hstarts =>
        turns_silent rfl hstarts hstep rfl .stays

end Steps

end AdminConsole.Screen
