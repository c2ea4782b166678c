/-
# `Proofs.Screen.Readiness` — what a screen that is ready has to show

A screen does not keep how its fetches ended.  Its phase is derived from what is
left of them: whether one is on its way, whether there is an error, and whether
there has been any generation.  So the way back from the phase leads over every way
in which a fetch may end or be given up, which is what its steps do (`Turns`).

Gathered along a run these say what the phase stands for (`phase_accounts`).  An
idle screen has never fetched.  A ready one shows what its last fetch has brought,
unless that one failed and its failure was dismissed, or unless no fetch has come
to its end and some event gave them up: a cancellation takes a generation too, so
that a screen on which nothing was ever fetched is ready after it
(`ready_after_cancel`).
-/
import AdminConsole.Proofs.Screen.Turns

namespace AdminConsole.Screen

/-! ## What the fetch of a screen tells of the run -/

/-- What is left of a run in the fetch of its screen: of the events, of how the fetches ended, and of
how many were started. -/
structure Told (events : List Event) (verdicts : List Settlement) (started : Nat)
    (r : Request Page ApiError) : Prop where
  idle : r.generation = 0 → started = 0
  ends : ∀ how ∈ verdicts, how = .succeeded ∨ how = .failed
  clear : r.error = none → verdicts.getLast? ≠ some .failed ∨ .dismiss ∈ events
  quiet : r.isLoading = false → verdicts = [] → r.generation = 0 ∨ ∃ e ∈ events, e.givesUp = true

section Runs

variable {events : List Event} {verdicts : List Settlement} {started : Nat}
  {r r' : Request Page ApiError} {e : Event} {run : Run}

theorem Told.more (h : Told events verdicts started r) (e : Event) :
    Told (events ++ [e]) verdicts started r where
  idle := h.idle
  ends := h.ends
  clear herror := (h.clear herror).imp id (List.mem_append_left [e])
  quiet hloading hnone := by
    refine (h.quiet hloading hnone).imp id ?_
    rintro ⟨g, hg, hgives⟩
    exact ⟨g, List.mem_append_left [e] hg, hgives⟩

theorem Told.ended (h : Told events verdicts started r) (reply : Except ApiError Page) :
    Told events (verdicts ++ [Request.outcomeOf reply]) started (r.accept reply) where
  idle hgeneration := by
    apply h.idle
    cases reply <;> exact hgeneration
  ends how hhow := by
    rcases List.mem_append.mp hhow with hhow | hhow
    · exact h.ends how hhow
    · rw [List.mem_singleton.mp hhow]
      cases reply with
      | ok page => exact .inl rfl
      | error err => exact .inr rfl
  clear herror := by
    rw [List.getLast?_concat]
    cases reply with
    | ok page => exact .inl nofun
    | error err => cases herror
  quiet _ hnone := absurd hnone (List.append_ne_nil_of_right_ne_nil _ (List.cons_ne_nil _ _))

theorem Told.start (h : Told events verdicts started r) :
    Told events verdicts (started + 1) r.start where
  idle hgeneration := absurd hgeneration (Nat.succ_ne_zero r.generation)
  ends := h.ends
  clear := h.clear
  quiet hloading := by cases hloading

/-- What a step does to the fetch of the screen tells what it has done to the fetches. -/
theorem Told.turn {starts : Bool} {verdict : Option Settlement}
    (h : Told events verdicts started r) (ht : Turns e r starts verdict r') :
    Told (events ++ [e]) (verdicts ++ verdict.toList) (started + starts.toNat) r' := by
  have hmore := h.more e
  have hlast : e ∈ events ++ [e] := List.mem_append_right _ (List.mem_singleton.mpr rfl)
  cases ht with
  | fetched reply => exact hmore.start.ended reply
  | settled reply => exact hmore.ended reply
  | started =>
      rw [Option.toList_none, List.append_nil]
      exact hmore.start
  | dismissed hdismiss =>
      rw [Option.toList_none, List.append_nil]
      exact ⟨hmore.idle, hmore.ends, fun _ => .inr (hdismiss ▸ hlast), hmore.quiet⟩
  | dropped hgives =>
      rw [Option.toList_none, List.append_nil]
      exact ⟨hmore.idle, hmore.ends, hmore.clear, fun _ _ => .inr ⟨e, hlast, hgives⟩⟩
  | cancelled hgives =>
      rw [Option.toList_none, List.append_nil]
      exact ⟨fun hgeneration => absurd hgeneration (Nat.succ_ne_zero r.generation), hmore.ends,
        hmore.clear, fun _ _ => .inr ⟨e, hlast, hgives⟩⟩
  | stays =>
      rw [Option.toList_none, List.append_nil]
      exact hmore

theorem Told.after {past : List Event} (h : Told past verdicts started run.screen.fetch)
    (events : List Event) :
    Told (past ++ events) (verdicts ++ run.verdicts events) (started + run.started events)
      (run.after events).screen.fetch := by
  induction events generalizing past verdicts started run with
  | nil =>
      simp only [Run.verdicts, Run.started, List.append_nil, Nat.add_zero]
      exact h
  | cons e events ih =>
      -- what the past has told goes along, since the phase depends on all of it
      have hnext := ih (h.turn (turns_step run e))
      rw [List.append_assoc, List.append_assoc, Nat.add_assoc] at hnext
      exact hnext

theorem Told.initial (k : Kind) (pageSize : Nat) (endpoint : Endpoint) :
    Told [] [] 0 (ofEndpoint k pageSize endpoint).fetch where
  idle _ := rfl
  ends _ hhow := absurd hhow List.not_mem_nil
  clear _ := .inl nofun
  quiet _ _ := .inl rfl

end Runs

/-! ## Phases on the way -/

section Phases

variable {P : Phase → Prop} {s : Screen} {w : World}

theorem phases_perform {α : Type} {phase : Phase} {p : Plan α} (hw : ∀ q ∈ w.phases, P q)
    (hphase : P phase) : ∀ q ∈ (World.perform phase p w).2.phases, P q := by
  intro q hq
  rcases List.mem_append.mp hq with hq | hq
  · exact hw q hq
  · rw [List.eq_of_mem_replicate hq]
    exact hphase

/-- The phases of a screen that is at work. -/
def AtWork (p : Phase) : Prop := p = .loading ∨ p = .deleting

theorem atWork_startFetch (s : Screen) : AtWork s.startFetch.phase := by
  simp only [Screen.phase]
  split
  · exact .inr rfl
  · exact .inl rfl

theorem phases_load (hw : ∀ q ∈ w.phases, AtWork q) :
    ∀ q ∈ (load memoryService s w).2.phases, AtWork q :=
  phases_perform (p := s.startFetch.pagePlan) hw (atWork_startFetch s)

theorem phases_followUp (next : Batch.FollowUp) (hw : ∀ q ∈ w.phases, AtWork q) :
    ∀ q ∈ (followUp memoryService s next w).2.phases, AtWork q := by
  cases next with
  | navigate search => exact phases_load hw
  | refetched => exact phases_load hw
  | abandoned => exact hw

theorem phases_runBatch (call : ResourceId → Call Unit) (hw : ∀ q ∈ w.phases, AtWork q) :
    ∀ q ∈ (runBatch memoryService s call w).2.phases, AtWork q := by
  rw [runBatch_eq]
  exact phases_followUp _ (phases_perform (p := fanOut call s.selectedIds) hw (.inr rfl))

theorem phases_advance (run : Run) (id : String) (generation : Nat) (flight : Flight Page) :
    (run.advance id generation flight).2.phases = [] := by
  simp only [Run.advance]
  cases flight.outcome? <;> rfl

theorem phases_screenStep (run : Run) (e : Event) :
    ∀ q ∈ (run.screenStep e).2.phases, AtWork q ∨ q = run.screen.phase := by
  have hnone : ∀ q ∈ ([] : List Phase), AtWork q := fun _ hq => absurd hq List.not_mem_nil
  cases e with
  | navigate search => exact fun q hq => .inl (phases_load hnone q hq)
  | fetch => exact fun q hq => .inl (phases_load hnone q hq)
  | edit e => exact fun q hq => .inl (phases_load hnone q hq)
  | delete => exact fun q hq => .inl (phases_runBatch _ hnone q hq)
  | disassociate => exact fun q hq => .inl (phases_runBatch _ hnone q hq)
  | details =>
      exact phases_perform (p := deleteDetailsFor run.screen.kind run.screen.selectedIds)
        (fun q hq => .inl (hnone q hq)) (.inr rfl)
  | selectRow i =>
      simp only [Run.screenStep]
      cases run.screen.row? i <;> exact fun q hq => .inl (hnone q hq)
  | _ => exact fun q hq => .inl (hnone q hq)

/-- Those who watch a step see the screen at work, or in the phase in which the step has found it. -/
theorem phases_step (run : Run) (e : Event) :
    ∀ q ∈ (run.step e).2.phases, AtWork q ∨ q = run.screen.phase := by
  intro q hq
  have hsilent : (run.step e).2.phases = [] → AtWork q ∨ q = run.screen.phase := by
    intro hnone
    rw [hnone] at hq
    exact absurd hq List.not_mem_nil
  have honScreen : run.step e = (if run.isOpen then run.screenStep e else (run, .only .nothing)) →
      AtWork q ∨ q = run.screen.phase := by
    intro hstep
    cases hopen : run.isOpen with
    | true =>
        rw [hopen, if_pos rfl] at hstep
        rw [hstep] at hq
        exact phases_screenStep run e q hq
    | false =>
        rw [hopen, if_neg Bool.false_ne_true] at hstep
        exact hsilent (by rw [hstep]; rfl)
  cases e with
  | extend more => exact hsilent rfl
  | cancel => exact hsilent rfl
  | begin id => exact hsilent (phases_advance _ _ _ _)
  | poll id =>
      apply hsilent
      simp only [Run.step]
      cases run.find? id with
      | none => rfl
      | some b =>
          simp only [Run.pollFetch]
          split
          · exact phases_advance _ _ _ _
          · rfl
  | drop id =>
      apply hsilent
      simp only [Run.step]
      cases run.find? id <;> rfl
  | release =>
      apply hsilent
      simp only [Run.step, Run.releaseOne]
      cases run.memory.release? <;> rfl
  | launch task =>
      apply hsilent
      cases h : run.progress? (.launch task) with
      | none => simp only [Run.step, h]; rfl
      | some p => rw [step_of_progress? h]; exact (fits_progress? h).silent
  | resume =>
      apply hsilent
      cases h : run.progress? .resume with
      | none => simp only [Run.step, h]; rfl
      | some p => rw [step_of_progress? h]; exact (fits_progress? h).silent
  | giveUp =>
      apply hsilent
      simp only [Run.step]
      cases run.standing <;> rfl
  | _ => exact honScreen rfl

end Phases

/-! ## The phase -/

theorem fetch_of_ready {s : Screen} (h : s.phase = .ready) :
    s.fetch.isLoading = false ∧ s.fetch.error = none ∧ s.fetch.generation ≠ 0 := by
  simp only [Screen.phase] at h
  split at h
  · cases h
  · split at h
    · cases h
    next hloading =>
      split at h
      · cases h
      next herror =>
        split at h
        · cases h
        next hgeneration =>
          exact ⟨Bool.eq_false_iff.mpr hloading, Option.not_isSome_iff_eq_none.mp herror,
            hgeneration⟩

theorem generation_of_idle {s : Screen} (h : s.phase = .idle) : s.fetch.generation = 0 := by
  simp only [Screen.phase] at h
  split at h
  · cases h
  · split at h
    · cases h
    · split at h
      · cases h
      · split at h
        next hgeneration => exact hgeneration
        · cases h

/-- **What the phase of a list stands for.**  In every run of a screen over a service, whatever is
fetched, navigated, deleted, dropped, dismissed or cancelled on the way: the screen is idle only if no
fetch was ever started; and when it is ready, the last fetch that came to its end has succeeded, or it
has failed and a failure was dismissed, or none has come to its end and fetches were given up.  Those
who watch a step see the screen at work or as it was before. -/
theorem phase_accounts (k : Kind) (pageSize : Nat) (endpoint : Endpoint) (memory : Memory)
    (events : List Event) :
    let start := Run.initial (ofEndpoint k pageSize endpoint) memory
    let run := start.after events
    (run.screen.phase = .ready →
      (start.verdicts events).getLast? = some .succeeded ∨
      ((start.verdicts events).getLast? = some .failed ∧ .dismiss ∈ events) ∨
      (start.verdicts events = [] ∧ ∃ e ∈ events, e.givesUp = true)) ∧
    (run.screen.phase = .idle → start.started events = 0) ∧
    ∀ e, ∀ q ∈ (run.step e).2.phases, q = .loading ∨ q = .deleting ∨ q = run.screen.phase := by
  intro start run
  have told : Told events (start.verdicts events) (start.started events) run.screen.fetch := by
    have hstart : Told [] [] 0 start.screen.fetch := .initial k pageSize endpoint
    have h := hstart.after events
    rw [List.nil_append, List.nil_append, Nat.zero_add] at h
    exact h
  refine ⟨fun hready => ?_, fun hidle => ?_, fun e q hq => ?_⟩
  · obtain ⟨hloading, herror, hgeneration⟩ := fetch_of_ready hready
    cases hlast : (start.verdicts events).getLast? with
    | none =>
        have hnone : start.verdicts events = [] := List.getLast?_eq_none_iff.mp hlast
        exact .inr (.inr ⟨hnone, (told.quiet hloading hnone).resolve_left hgeneration⟩)
    | some how =>
        rcases told.ends how (List.mem_of_getLast? hlast) with rfl | rfl
        · exact .inl rfl
        · exact .inr (.inl ⟨rfl, (told.clear herror).resolve_left (not_not_intro hlast)⟩)
  · exact told.idle (generation_of_idle hidle)
  · exact or_assoc.mp (phases_step run e q hq)

/-- A cancellation makes a screen ready on which nothing was ever fetched. -/
theorem ready_after_cancel :
    let start := Run.initial (ofKind .hosts 20) Memory.empty
    (start.after [.cancel]).screen.phase = .ready ∧ .succeeded ∉ start.verdicts [.cancel] ∧
      start.started [.cancel] = 0 :=
  ⟨rfl, List.not_mem_nil, rfl⟩

end AdminConsole.Screen
