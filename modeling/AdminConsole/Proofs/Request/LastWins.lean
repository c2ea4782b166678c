/-
# `Proofs.Request.LastWins` — only the last request settles

A run counts generations, its history does not; here both are shown to tell the
same (`last_request_wins`).  What a poll finds is what the history says, and what
can be seen of a run, its value and its error, is the fold of the effects of its
history: values set or changed by hand, errors dismissed, and the replies of
calls that nothing had overtaken when they were polled.

The invariant is `Tracks`: the calls that are alive are those of the history,
with the replies that it says they got, and a call has the newest generation
exactly when nothing has overtaken it.
-/
import AdminConsole.Proofs.Dict
import AdminConsole.Proofs.Request.History

namespace AdminConsole.Request

variable {κ ρ ε : Type} [DecidableEq κ]

/-! ## Calls of a run -/

namespace Run

variable {run : Run κ ρ ε} {id id' : κ}

theorem id_of_call? {c : Call κ ρ ε} (h : run.call? id = some c) : c.id = id := by
  have := List.find?_some h
  simpa using this

theorem find?_others_self (run : Run κ ρ ε) (id : κ) :
    (run.others id).find? (fun c => c.id == id) = none :=
  (find?_filter_key Call.id run.calls id id).trans (if_pos rfl)

theorem find?_others_of_ne (h : id ≠ id') (run : Run κ ρ ε) :
    (run.others id').find? (fun c => c.id == id) = run.call? id :=
  (find?_filter_key Call.id run.calls id id').trans (if_neg h)

theorem call?_start (run : Run κ ρ ε) (id id' : κ) :
    (run.start id').call? id =
      if id = id' then some ⟨id', run.state.generation + 1, none⟩ else run.call? id := by
  simp only [start, call?]
  rw [List.find?_append]
  by_cases h : id = id'
  · subst h
    rw [find?_others_self, if_pos rfl]
    simp [Request.start]
  · have hne : (id' == id) = false := by simp [Ne.symm h]
    rw [find?_others_of_ne h, if_neg h]
    simp [call?, hne]

theorem call?_deliver (run : Run κ ρ ε) (id id' : κ) (reply : Except ε ρ) :
    (run.step (.deliver id' reply)).1.call? id = (run.call? id).map (deliverTo id' reply) := by
  have hid : ∀ c : Call κ ρ ε, (deliverTo id' reply c).id = c.id := by
    intro c
    simp only [deliverTo]
    split <;> rfl
  show (run.calls.map (deliverTo id' reply)).find? _ = _
  rw [List.find?_map]
  simp only [call?]
  congr 2
  funext c
  simp [hid]

theorem generation_accept (r : Request ρ ε) (reply : Except ε ρ) :
    (r.accept reply).generation = r.generation := by
  cases reply <;> rfl

theorem generation_abandon (r : Request ρ ε) (generation : Nat) :
    (r.abandon generation).state.generation = r.generation := by
  simp only [Request.abandon]
  split <;> rfl

theorem generation_pollCall (run : Run κ ρ ε) (c : Call κ ρ ε) :
    (run.pollCall c).1.state.generation = run.state.generation := by
  simp only [pollCall, Request.settle]
  cases run.state.isNewest c.generation with
  | false => rfl
  | true =>
      cases c.reply with
      | none => rfl
      | some reply => exact generation_accept run.state reply

/-- Only an event that overtakes moves the generation, and by one. -/
theorem generation_step (run : Run κ ρ ε) (e : Event κ ρ ε) :
    (run.step e).1.state.generation =
      if e.overtakes then run.state.generation + 1 else run.state.generation := by
  cases e with
  | start id => rfl
  | deliver id reply => rfl
  | setValue value => rfl
  | updateValue f => rfl
  | dismiss => rfl
  | cancel => rfl
  | poll id =>
      simp only [step]
      cases run.call? id with
      | none => rfl
      | some c => exact generation_pollCall run c
  | drop id =>
      simp only [step]
      cases run.call? id with
      | none => rfl
      | some c => exact generation_abandon run.state c.generation

theorem call?_poll_of_ne (h : id ≠ id') (run : Run κ ρ ε) :
    (run.step (.poll id')).1.call? id = run.call? id := by
  simp only [step]
  cases hc : run.call? id' with
  | none => rfl
  | some c =>
      have hid : c.id = id' := id_of_call? hc
      have hothers : (run.others c.id).find? (fun c => c.id == id) = run.call? id := by
        rw [hid]
        exact find?_others_of_ne h run
      show (run.pollCall c).1.call? id = run.call? id
      simp only [pollCall]
      split
      · cases c.reply with
        | none => rfl
        | some reply => exact hothers
      · exact hothers

theorem call?_drop (run : Run κ ρ ε) (id id' : κ) :
    (run.step (.drop id')).1.call? id = if id = id' then none else run.call? id := by
  simp only [step]
  by_cases h : id = id'
  · subst h
    rw [if_pos rfl]
    cases hc : run.call? id with
    | none => exact hc
    | some c => exact find?_others_self run id
  · rw [if_neg h]
    cases run.call? id' with
    | none => rfl
    | some c => exact find?_others_of_ne h run

end Run

/-! ## The invariant -/

/-- What can be seen of a run besides whether it is loading: its value and its error. -/
def Run.visible (run : Run κ ρ ε) : ρ × Option ε := (run.state.result, run.state.error)

/-- The call of a name is as the history tells. -/
structure Alive (id : κ) (since : List (Event κ ρ ε)) (run : Run κ ρ ε) (c : Call κ ρ ε) :
    Prop where
  here : run.call? id = some c
  reply : c.reply = firstReply? id since
  newest : run.state.isNewest c.generation = !isOvertaken since
  started : c.generation ≤ run.state.generation

/-- A run holds the calls that are alive in its history, and no others. -/
def Follows (id : κ) (past : List (Event κ ρ ε)) (run : Run κ ρ ε) : Prop :=
  match liveSince? id past with
  | none => run.call? id = none
  | some since => ∃ c, Alive id since run c

/-- What can be seen of a run, and the calls in it, are as its history tells. -/
structure Tracks (default : ρ) (past : List (Event κ ρ ε)) (run : Run κ ρ ε) : Prop where
  visible : run.visible = (effects past).foldl Effect.apply (default, none)
  calls : ∀ id, Follows id past run

section Steps

variable {run : Run κ ρ ε} {id : κ} {past : List (Event κ ρ ε)}

/-- What a poll does, by what the history says of the call. -/
theorem poll_cases (h : Follows id past run) :
    (liveSince? id past = none ∧ run.step (.poll id) = (run, ⟨none, false⟩)) ∨
    ∃ since, liveSince? id past = some since ∧
      ((isOvertaken since = true ∧ run.step (.poll id) =
          ({ run with calls := run.others id }, ⟨some (.settled .superseded), false⟩)) ∨
       (isOvertaken since = false ∧ firstReply? id since = none ∧
          run.step (.poll id) = (run, ⟨some .pending, false⟩)) ∨
       ∃ reply, isOvertaken since = false ∧ firstReply? id since = some reply ∧
          run.step (.poll id) = (⟨run.state.accept reply, run.others id⟩,
            ⟨some (.settled (outcomeOf reply)), true⟩)) := by
  simp only [Follows] at h
  cases hlive : liveSince? id past with
  | none =>
      simp only [hlive] at h
      refine .inl ⟨rfl, ?_⟩
      simp only [Run.step, h]
  | some since =>
      simp only [hlive] at h
      obtain ⟨c, hc⟩ := h
      have hid : c.id = id := Run.id_of_call? hc.here
      refine .inr ⟨since, rfl, ?_⟩
      have hstep : run.step (.poll id) = run.pollCall c := by simp only [Run.step, hc.here]
      rw [hstep]
      simp only [Run.pollCall, Request.settle]
      rw [hc.newest, hc.reply, hid]
      cases ho : isOvertaken since with
      | true => exact .inl ⟨rfl, rfl⟩
      | false =>
          cases hr : firstReply? id since with
          | none => exact .inr (.inl ⟨rfl, rfl, rfl⟩)
          | some reply => exact .inr (.inr ⟨reply, rfl, rfl, rfl⟩)

theorem alive_concat {since : List (Event κ ρ ε)} {c c' : Call κ ρ ε} {e : Event κ ρ ε}
    (h : Alive id since run c) (here : (run.step e).1.call? id = some c')
    (reply : c'.reply = (firstReply? id since).or (e.replyTo? id))
    (generation : c'.generation = c.generation) : Alive id (since ++ [e]) (run.step e).1 c' where
  here := here
  reply := by rw [firstReply?_concat, reply]
  newest := by
    have hle := h.started
    have hnew := h.newest
    simp only [isNewest] at hnew ⊢
    rw [isOvertaken_concat, Run.generation_step, generation]
    cases e.overtakes with
    | false => simpa using hnew
    | true =>
        have hne : run.state.generation + 1 ≠ c.generation := by omega
        simp [hne]
  started := by
    have hle := h.started
    rw [Run.generation_step, generation]
    split
    · omega
    · exact hle

/-- An event that neither starts the call of a name nor ends it leaves it alive, at most with a
reply that it did not have. -/
theorem follows_concat (h : Follows id past run) {e : Event κ ρ ε} (hstart : e.starts id = false)
    (hend : ∀ since, endsCall id since e = false) (f : Call κ ρ ε → Call κ ρ ε)
    (hcall : (run.step e).1.call? id = (run.call? id).map f)
    (hreply : ∀ c, c.id = id → (f c).reply = c.reply.or (e.replyTo? id))
    (hgen : ∀ c, (f c).generation = c.generation) :
    Follows id (past ++ [e]) (run.step e).1 := by
  simp only [Follows] at h ⊢
  rw [liveSince?_concat]
  simp only [liveStep]
  cases hlive : liveSince? id past with
  | none =>
      simp only [hlive] at h
      simp [hstart, hcall, h]
  | some since =>
      simp only [hlive] at h
      obtain ⟨c, hc⟩ := h
      have hid : c.id = id := Run.id_of_call? hc.here
      simp only [hstart, Option.bind_some, hend since, Bool.false_eq_true, if_false]
      refine ⟨f c, alive_concat hc ?_ ?_ (hgen c)⟩
      · rw [hcall, hc.here]
        rfl
      · rw [hreply c hid, hc.reply]

theorem follows_poll (h : Follows id past run) :
    Follows id (past ++ [.poll id]) (run.step (.poll id)).1 := by
  have hgone : (run.others id).find? (fun c => c.id == id) = none := Run.find?_others_self run id
  have hlive := liveSince?_concat id past (.poll id)
  obtain ⟨hnone, hstep⟩ | ⟨since, hsome, hcase⟩ := poll_cases h
  · -- there is nothing to poll
    rw [hnone] at hlive
    simp only [Follows] at h ⊢
    rw [hlive, hstep]
    rw [hnone] at h
    exact h
  · rw [hsome] at hlive
    obtain ⟨ho, hstep⟩ | ⟨ho, hr, hstep⟩ | ⟨reply, ho, hr, hstep⟩ := hcase
    · have hended : liveSince? id (past ++ [.poll id]) = none := by
        rw [hlive]
        simp [liveStep, Event.starts, endsCall, found, ho]
      simp only [Follows]
      rw [hended, hstep]
      exact hgone
    · have hkept : liveSince? id (past ++ [.poll id]) = some (since ++ [.poll id]) := by
        rw [hlive]
        simp [liveStep, Event.starts, endsCall, found, ho, hr]
      simp only [Follows] at h ⊢
      rw [hkept]
      rw [hsome] at h
      obtain ⟨c, hc⟩ := h
      refine ⟨c, alive_concat hc ?_ ?_ rfl⟩
      · rw [hstep]
        exact hc.here
      · rw [hc.reply, hr]
        rfl
    · have hended : liveSince? id (past ++ [.poll id]) = none := by
        rw [hlive]
        simp [liveStep, Event.starts, endsCall, found, ho, hr]
      simp only [Follows]
      rw [hended, hstep]
      exact hgone

theorem follows_step (h : Follows id past run) (e : Event κ ρ ε) :
    Follows id (past ++ [e]) (run.step e).1 := by
  have hkeep : ∀ c : Call κ ρ ε, c.id = id → c.reply = c.reply.or none := by
    intro c _
    rw [Option.or_none]
  have hsame : ∀ c : Call κ ρ ε, c.generation = c.generation := fun _ => rfl
  have hmap : run.call? id = (run.call? id).map fun c => c := by simp
  cases e with
  | start id' =>
      by_cases hid : id' = id
      · subst hid
        have hlive : liveSince? id' (past ++ [.start id']) = some [] := by
          rw [liveSince?_concat]
          simp [liveStep, Event.starts]
        simp only [Follows]
        rw [hlive]
        refine ⟨⟨id', run.state.generation + 1, none⟩, ?_, rfl, ?_, ?_⟩
        · show (run.start id').call? id' = _
          rw [Run.call?_start, if_pos rfl]
        · exact beq_self_eq_true _
        · exact Nat.le_refl _
      · refine follows_concat h (by simp [Event.starts, hid]) (fun _ => rfl) _ ?_ hkeep hsame
        show (run.start id').call? id = _
        rw [Run.call?_start, if_neg (Ne.symm hid)]
        exact hmap
  | deliver id' reply =>
      refine follows_concat h rfl (fun _ => rfl) _ (Run.call?_deliver run id id' reply) ?_ ?_
      · intro c hc
        simp only [Run.deliverTo, Event.replyTo?]
        by_cases hid : id' = id
        · subst hid
          cases hr : c.reply <;> simp [hc, hr]
        · have hne : id ≠ id' := Ne.symm hid
          simp [hc, hid, hne]
      · intro c
        simp only [Run.deliverTo]
        split <;> rfl
  | poll id' =>
      by_cases hid : id' = id
      · subst hid
        exact follows_poll h
      · refine follows_concat h rfl (fun _ => by simp [endsCall, hid]) _ ?_ hkeep hsame
        rw [Run.call?_poll_of_ne (Ne.symm hid)]
        exact hmap
  | drop id' =>
      by_cases hid : id' = id
      · subst hid
        have hgone : (run.step (.drop id')).1.call? id' = none := by
          rw [Run.call?_drop, if_pos rfl]
        have hended : liveSince? id' (past ++ [.drop id']) = none := by
          rw [liveSince?_concat]
          cases liveSince? id' past <;> simp [liveStep, Event.starts, endsCall]
        simp only [Follows]
        rw [hended]
        exact hgone
      · refine follows_concat h rfl (fun _ => by simp [endsCall, hid]) _ ?_ hkeep hsame
        rw [Run.call?_drop, if_neg (Ne.symm hid)]
        exact hmap
  | setValue value => exact follows_concat h rfl (fun _ => rfl) _ hmap hkeep hsame
  | updateValue f => exact follows_concat h rfl (fun _ => rfl) _ hmap hkeep hsame
  | dismiss => exact follows_concat h rfl (fun _ => rfl) _ hmap hkeep hsame
  | cancel => exact follows_concat h rfl (fun _ => rfl) _ hmap hkeep hsame

theorem poll_eq (h : Follows id past run) :
    (run.step (.poll id)).2.poll = (liveSince? id past).map (found id) := by
  obtain ⟨hnone, hstep⟩ | ⟨since, hsome, hcase⟩ := poll_cases h
  · rw [hstep, hnone]
    rfl
  · rw [hsome, Option.map_some]
    simp only [found]
    obtain ⟨ho, hstep⟩ | ⟨ho, hr, hstep⟩ | ⟨reply, ho, hr, hstep⟩ := hcase
    · rw [hstep, ho]
      rfl
    · rw [hstep, ho, hr]
      rfl
    · rw [hstep, ho, hr]
      rfl

theorem found_eq_settled {since : List (Event κ ρ ε)} {how : Settlement} (hhow : how ≠ .superseded) :
    found id since = .settled how ↔
      isOvertaken since = false ∧
        ∃ reply, firstReply? id since = some reply ∧ how = outcomeOf reply := by
  simp only [found]
  cases isOvertaken since with
  | true => simp [Ne.symm hhow]
  | false =>
      cases firstReply? id since with
      | none => simp
      | some reply => simp [eq_comm]

/-- What ends a call with a success or a failure is a poll, with its reply there in time. -/
theorem settled_iff (h : ∀ id, Follows id past run) (e : Event κ ρ ε) {how : Settlement}
    (hhow : how ≠ .superseded) :
    (run.step e).2.poll = some (.settled how) ↔
      ∃ id since reply, e = .poll id ∧ liveSince? id past = some since ∧
        isOvertaken since = false ∧ firstReply? id since = some reply ∧ how = outcomeOf reply := by
  have hpoll : ∀ id, (run.step (.poll id)).2.poll = some (.settled how) ↔
      ∃ since, liveSince? id past = some since ∧ isOvertaken since = false ∧
        ∃ reply, firstReply? id since = some reply ∧ how = outcomeOf reply := by
    intro id
    rw [poll_eq (h id), Option.map_eq_some_iff]
    constructor
    · rintro ⟨since, hlive, hfound⟩
      exact ⟨since, hlive, (found_eq_settled hhow).mp hfound⟩
    · rintro ⟨since, hlive, hfound⟩
      exact ⟨since, hlive, (found_eq_settled hhow).mpr hfound⟩
  cases e with
  | poll id =>
      rw [hpoll id]
      constructor
      · rintro ⟨since, hlive, ho, reply, hr, hout⟩
        exact ⟨id, since, reply, rfl, hlive, ho, hr, hout⟩
      · rintro ⟨_, since, reply, he, hlive, ho, hr, hout⟩
        cases he
        exact ⟨since, hlive, ho, reply, hr, hout⟩
  | drop id =>
      have hnone : (run.step (.drop id)).2.poll = none := by
        simp only [Run.step]
        split <;> rfl
      rw [hnone]
      simp
  | start id => simp [Run.step]
  | deliver id reply => simp [Run.step]
  | setValue value => simp [Run.step]
  | updateValue f => simp [Run.step]
  | dismiss => simp [Run.step]
  | cancel => simp [Run.step]

theorem visible_step (h : ∀ id, Follows id past run) (e : Event κ ρ ε) :
    (run.step e).1.visible = (effect? past e).toList.foldl Effect.apply run.visible := by
  cases e with
  | start id => rfl
  | deliver id reply => rfl
  | setValue value => rfl
  | updateValue f => rfl
  | dismiss => rfl
  | cancel => rfl
  | poll id =>
      obtain ⟨hnone, hstep⟩ | ⟨since, hsome, hcase⟩ := poll_cases (h id)
      · rw [hstep]
        simp [effect?, hnone]
      · obtain ⟨ho, hstep⟩ | ⟨ho, hr, hstep⟩ | ⟨reply, ho, hr, hstep⟩ := hcase
        · rw [hstep]
          simp [effect?, hsome, taken?, ho, Run.visible]
        · rw [hstep]
          simp [effect?, hsome, taken?, ho, hr]
        · have he : effect? past (.poll id) = some (Effect.ofReply reply) := by
            simp [effect?, hsome, taken?, ho, hr]
          rw [hstep, he]
          cases reply <;> rfl
  | drop id =>
      simp only [Run.step]
      cases run.call? id with
      | none => rfl
      | some c =>
          show ((run.state.abandon c.generation).state.result,
            (run.state.abandon c.generation).state.error) = run.visible
          simp only [Request.abandon]
          split <;> rfl

end Steps

theorem Tracks.initial (default : ρ) : Tracks default [] (Run.initial default : Run κ ρ ε) where
  visible := rfl
  calls _ := rfl

theorem Tracks.step {default : ρ} {past : List (Event κ ρ ε)} {run : Run κ ρ ε}
    (h : Tracks default past run) (e : Event κ ρ ε) :
    Tracks default (past ++ [e]) (run.step e).1 where
  visible := by rw [visible_step h.calls, effects_concat, List.foldl_append, h.visible]
  calls id := follows_step (h.calls id) e

theorem Tracks.after {default : ρ} {past : List (Event κ ρ ε)} {run : Run κ ρ ε}
    (h : Tracks default past run) (events : List (Event κ ρ ε)) :
    Tracks default (past ++ events) (run.after events) := by
  induction events generalizing past run with
  | nil =>
      rw [List.append_nil]
      exact h
  | cons e events ih =>
      have := ih (h.step e)
      rw [List.append_assoc] at this
      exact this

theorem tracks (default : ρ) (past : List (Event κ ρ ε)) :
    Tracks default past ((Run.initial default).after past) :=
  (Tracks.initial default).after past

/-! ## The whole run -/

/-- Only the last request settles: the value and the error of a run are what the events of its
history make of them, a call succeeds or fails exactly when it is polled with its reply there and
nothing has overtaken it, a call that was overtaken ends without a trace, and so do replies that come
too late or to calls that are gone. -/
theorem last_request_wins (default : ρ) (past : List (Event κ ρ ε)) :
    let run := (Run.initial default).after past
    run.visible = (effects past).foldl Effect.apply (default, none) ∧
    (∀ id, (run.step (.poll id)).2.poll = (liveSince? id past).map (found id)) ∧
    (∀ e how, how ≠ .superseded → ((run.step e).2.poll = some (.settled how) ↔
      ∃ id since reply, e = .poll id ∧ liveSince? id past = some since ∧
        isOvertaken since = false ∧ firstReply? id since = some reply ∧ how = outcomeOf reply)) ∧
    (∀ id since, liveSince? id past = some since → isOvertaken since = true →
      run.step (.poll id) =
        ({ run with calls := run.others id }, ⟨some (.settled .superseded), false⟩)) ∧
    (∀ id reply later,
      (∀ since, liveSince? id past = some since → isOvertaken since = true) →
      ((Run.initial default).after (past ++ .deliver id reply :: later)).visible =
        ((Run.initial default).after (past ++ later)).visible) := by
  intro run
  have h : Tracks default past run := tracks default past
  refine ⟨h.visible, ?_, ?_, ?_, ?_⟩
  · exact fun id => poll_eq (h.calls id)
  · exact fun e how hhow => settled_iff h.calls e hhow
  · intro id since hlive ho
    obtain ⟨hnone, -⟩ | ⟨since', hsome, hcase⟩ := poll_cases (h.calls id)
    · rw [hlive] at hnone
      cases hnone
    · rw [hlive] at hsome
      cases hsome
      obtain ⟨-, hstep⟩ | ⟨ho', -⟩ | ⟨_, ho', -⟩ := hcase
      · exact hstep
      · rw [ho] at ho'
        cases ho'
      · rw [ho] at ho'
        cases ho'
  · intro id reply later hlate
    rw [(tracks default _).visible, (tracks default _).visible, effects_append, effects_append]
    show (effects past ++ ([] ++ effectsFrom (past ++ [Event.deliver id reply]) later)).foldl _ _ = _
    rw [List.nil_append, effectsFrom_congr (alike_deliver hlate reply)]

theorem last_request_wins_two :
    let past : List (Event Nat Nat Nat) := [.start 1, .start 2, .deliver 2 (.ok 7)]
    let run := (Run.initial 0).after past
    (run.step (.poll 2)).2.poll = some (.settled .succeeded) ∧
    (run.step (.poll 1)).2 = ⟨some (.settled .superseded), false⟩ ∧
    (run.step (.poll 1)).1.visible = run.visible := by
  intro past run
  obtain ⟨-, -, hend, hover, -⟩ := last_request_wins 0 past
  have hfirst : run.step (.poll 1) =
      ({ run with calls := run.others 1 }, ⟨some (.settled .superseded), false⟩) :=
    hover 1 [.start 2, .deliver 2 (.ok 7)] rfl rfl
  refine ⟨?_, ?_, ?_⟩
  · exact (hend (.poll 2) .succeeded (by decide)).mpr
      ⟨2, [.deliver 2 (.ok 7)], .ok 7, rfl, rfl, rfl, rfl, rfl⟩
  · rw [hfirst]
  · rw [hfirst]
    rfl

end AdminConsole.Request
