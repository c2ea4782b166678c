/-
# `Proofs.Batch.Overlap` — batches that overlap stay apart

A batch does not return what it has done.  It leaves it in the state that all
batches of the list share, and reads it back from there.  That nothing else has
got in between is shown by comparing a run with its history
(`batches_stay_apart`): a poll finds what the events of that batch alone say, the
list is fetched again once for each batch that ends so, the error is that of the
last batch that was not abandoned, and the list is loading while a batch is on its
way that nothing has overtaken.

The invariant is `Keeps`.  What a step does to the calls is the business of
`Proofs.Request`; the step lemmas here only follow the batches, the count of
fetches and the error along (`Keeps.concat`).
-/
import AdminConsole.Proofs.Batch.History
import AdminConsole.Proofs.Request.Loading

namespace AdminConsole.Batch

variable {κ : Type}

def Outcome.isRefetched (o : Outcome κ) : Bool := o.followUp = .refetched

/-- A batch of a history as one on its way. -/
def Life.inFlight (name : String) (b : Life κ) : InFlight κ := ⟨name, b.order⟩

/-- A run is as its history tells. -/
structure Keeps (scope : Query.Scope) (past : List (Event κ)) (run : Run κ) : Prop where
  inScope : run.scope = scope
  requests : run.requests = (Request.Run.initial []).after (calls past)
  batches : ∀ name, run.find? name = (live? name past).map (Life.inFlight name)
  refetches : run.refetches = (endings scope past).countP Outcome.isRefetched
  error : run.error? = lastFailure scope past

variable {scope : Query.Scope} {past : List (Event κ)} {run run' : Run κ} {name : String}
  {life? : Option (Life κ)} {e : Event κ}

/-! ## One more event -/

theorem lastFailure_concat (scope : Query.Scope) (past : List (Event κ)) (e : Event κ) :
    lastFailure scope (past ++ [e]) = (verdict? scope past e).getD (lastFailure scope past) := by
  simp only [lastFailure]
  rw [gather_concat]
  cases verdict? scope past e with
  | none => rw [Option.toList_none, List.append_nil]; rfl
  | some verdict => rw [Option.toList_some, List.getLast?_concat]; rfl

theorem Keeps.concat (h : Keeps scope past run) (inScope : run'.scope = run.scope)
    (requests : run'.requests = run.requests.after (callEvent? past e).toList)
    (batches : ∀ name, run'.find? name
      = (liveStep name (live? name past) e).map (Life.inFlight name))
    (refetches : run'.refetches
      = run.refetches + (ending? scope past e).toList.countP Outcome.isRefetched)
    (error : run'.error? = (verdict? scope past e).getD run.error?) :
    Keeps scope (past ++ [e]) run' where
  inScope := inScope.trans h.inScope
  requests := by
    rw [requests, h.requests, calls_concat]
    exact List.foldl_append.symm
  batches name := by rw [live?_concat, batches name]
  refetches := by
    have hpast := h.refetches
    simp only [endings] at hpast ⊢
    rw [refetches, hpast, gather_concat, List.countP_append]
  error := by rw [error, h.error, lastFailure_concat]

theorem Keeps.find?_kept (h : Keeps scope past run) (start : e.orderFor? name = none)
    (kept : ∀ b, live? name past = some b → b.ends name e = false) :
    run.find? name = (liveStep name (live? name past) e).map (Life.inFlight name) := by
  rw [h.batches name]
  simp only [liveStep, start]
  cases hlive : live? name past with
  | none => rfl
  | some b =>
      rw [Option.bind_some, kept b hlive]
      rfl

theorem Run.find?_others (run : Run κ) (name name' : String) :
    (run.others name').find? (fun b => b.name == name) =
      if name = name' then none else run.find? name :=
  find?_filter_key InFlight.name run.inFlight name name'

theorem Keeps.find?_ended (h : Keeps scope past run) (start : ∀ n, e.orderFor? n = none)
    (ends : ∀ b, live? name past = some b → b.ends name e = true)
    (kept : ∀ n, n ≠ name → ∀ b : Life κ, b.ends n e = false) (n : String) :
    (run.others name).find? (fun b => b.name == n)
      = (liveStep n (live? n past) e).map (Life.inFlight n) := by
  rw [Run.find?_others]
  by_cases hn : n = name
  · subst hn
    rw [if_pos rfl]
    simp only [liveStep, start n]
    cases hlive : live? n past with
    | none => rfl
    | some b =>
        rw [Option.bind_some, ends b hlive]
        rfl
  · rw [if_neg hn]
    exact h.find?_kept (start n) fun b _ => kept n hn b

/-! ## Polls -/

/-- A run in which a batch has settled its call, and ended so. -/
def Run.ended (run : Run κ) (name : String) (o : Outcome κ) : Run κ :=
  ⟨run.scope, (run.requests.step (.poll name)).1, run.others name,
    if o.followUp = .refetched then run.refetches + 1 else run.refetches⟩

theorem error_accept (state : State κ) (reply : Except (DeletionError κ) (List κ)) :
    (state.accept reply).error = failureOf reply := by
  cases reply <;> rfl

theorem Keeps.follows (h : Keeps scope past run) (name : String) :
    Request.Follows name (calls past) run.requests := by
  rw [h.requests]
  exact (Request.tracks [] (calls past)).calls name

theorem Keeps.poll_none (h : Keeps scope past run) (hlive : live? name past = none) :
    run.step (.poll name) = (run, ⟨none, false⟩) ∧
      (run.requests.step (.poll name)).1 = run.requests := by
  have hbatch := h.batches name
  have hmirrors := mirrors name past
  rw [hlive] at hbatch hmirrors
  constructor
  · simp only [Run.step, hbatch, Option.map_none]
  · obtain ⟨-, hstep⟩ | ⟨since, hsome, -⟩ := Request.poll_cases (h.follows name)
    · rw [hstep]
    · rw [hsome] at hmirrors
      exact hmirrors.elim

/-- A poll finds nothing yet, or ends the batch with what the history says of it. -/
theorem Keeps.poll_some (h : Keeps scope past run) {b : Life κ} (hlive : live? name past = some b) :
    (b.found scope name = .pending ∧ run.step (.poll name) = (run, ⟨some .pending, false⟩) ∧
      (run.requests.step (.poll name)).1 = run.requests) ∨
    ∃ o notified, b.found scope name = .ended o ∧
      run.step (.poll name) = (run.ended name o, ⟨some (.ended o), notified⟩) ∧
      (run.ended name o).error? = o.verdict?.getD run.error? := by
  have hbatch := h.batches name
  have hmirrors := mirrors name past
  rw [hlive] at hbatch hmirrors
  have hpoll : run.step (.poll name) = run.poll (b.inFlight name) := by
    simp only [Run.step, hbatch, Option.map_some]
  obtain ⟨hnone, -⟩ | ⟨since, hsome, hcase⟩ := Request.poll_cases (h.follows name)
  · rw [hnone] at hmirrors
    exact hmirrors.elim
  · rw [hsome] at hmirrors
    obtain ⟨hover, hreply⟩ : Mirror name b since := hmirrors
    rw [hover, hreply] at hcase
    rw [hpoll]
    simp only [Run.poll, Run.ended, Life.inFlight, Life.found]
    obtain ⟨ho, hstep⟩ | ⟨ho, hr, hstep⟩ | ⟨reply, ho, hr, hstep⟩ := hcase
    · rw [hstep, ho]
      exact .inr ⟨.abandoned, false, rfl, rfl, rfl⟩
    · rw [hstep, ho]
      cases hreleased : b.isReleased name with
      | true => simp [Life.reply?, hreleased] at hr
      | false => exact .inl ⟨rfl, rfl, rfl⟩
    · rw [hstep, ho]
      cases hreleased : b.isReleased name with
      | false => simp [Life.reply?, hreleased] at hr
      | true =>
          simp only [Life.reply?, hreleased, if_true, Option.some.injEq] at hr
          subst hr
          -- the state has just taken the batch's own reply, so this is what is read back
          refine .inr ⟨b.order.ending scope, true, rfl, ?_, ?_⟩
          · simp only [Run.finish, followUpOf_outcomeOf, resultOf_accept, h.inScope, Order.ending]
            rfl
          · show (run.requests.state.accept (check b.order.outcomes)).error = _
            rw [error_accept, Order.verdict?_ending, Option.getD_some]

theorem Keeps.poll_eq (h : Keeps scope past run) (name : String) :
    (run.step (.poll name)).2.poll = (live? name past).map (Life.found scope name) := by
  cases hlive : live? name past with
  | none =>
      rw [(h.poll_none hlive).1]
      rfl
  | some b =>
      rw [Option.map_some]
      obtain ⟨hfound, hstep, -⟩ | ⟨o, notified, hfound, hstep, -⟩ := h.poll_some hlive
      · rw [hstep, hfound]
      · rw [hstep, hfound]

theorem Keeps.unchanged (h : Keeps scope past run)
    (requests : (run.requests.step (.poll name)).1 = run.requests)
    (ending : ending? scope past (.poll name) = none) : Keeps scope (past ++ [.poll name]) run := by
  refine h.concat rfl requests.symm ?_ ?_ ?_
  · intro n
    refine h.find?_kept rfl fun b hlive => ?_
    by_cases hn : name = n
    · subst hn
      rw [Life.ends_poll scope, Option.isSome_eq_false_iff, Option.isNone_iff_eq_none]
      simpa only [ending?, hlive, Option.bind_some] using ending
    · simp [Life.ends, hn]
  · rw [ending]
    rfl
  · simp only [verdict?, ending]
    rfl

theorem Keeps.poll (h : Keeps scope past run) (name : String) :
    Keeps scope (past ++ [.poll name]) (run.step (.poll name)).1 := by
  cases hlive : live? name past with
  | none =>
      obtain ⟨hstep, hrequests⟩ := h.poll_none hlive
      rw [hstep]
      exact h.unchanged hrequests (by simp only [ending?, hlive, Option.bind_none])
  | some b =>
      have hending : ending? scope past (.poll name) = (b.found scope name).outcome? := by
        simp only [ending?, hlive, Option.bind_some]
      obtain ⟨hfound, hstep, hrequests⟩ | ⟨o, notified, hfound, hstep, herror⟩ := h.poll_some hlive
      · rw [hstep]
        exact h.unchanged hrequests (by rw [hending, hfound]; rfl)
      · have hsome : ending? scope past (.poll name) = some o := by rw [hending, hfound]; rfl
        rw [hstep]
        refine h.concat rfl rfl ?_ ?_ ?_
        · refine h.find?_ended (fun _ => rfl) ?_ ?_
          · intro b' hlive'
            cases hlive.symm.trans hlive'
            rw [Life.ends_poll scope, hfound]
            rfl
          · intro n hn b'
            simp [Life.ends, Ne.symm hn]
        · rw [hsome]
          show (if o.followUp = .refetched then _ else _) = _
          by_cases hnext : o.followUp = .refetched
          · simp [hnext, Outcome.isRefetched]
          · simp [hnext, Outcome.isRefetched]
        · simp only [verdict?, hsome]
          exact herror

/-! ## Steps and runs -/

theorem Keeps.start (h : Keeps scope past run) (name : String) (order : Order κ) :
    Keeps scope (past ++ [.start name order]) (run.step (.start name order)).1 := by
  refine h.concat rfl rfl ?_ rfl rfl
  intro n
  show (run.others name ++ [(⟨name, order⟩ : InFlight κ)]).find? (fun b => b.name == n) = _
  rw [List.find?_append, Run.find?_others]
  by_cases hn : n = name
  · subst hn
    simp [liveStep, Event.orderFor?, Life.inFlight]
  · have hne : ¬name = n := Ne.symm hn
    have hkept := h.find?_kept (e := .start name order) (if_neg hne) fun _ _ => rfl
    rw [if_neg hn, ← hkept]
    simp [hne]

theorem Keeps.release (h : Keeps scope past run) (name : String) :
    Keeps scope (past ++ [.release name]) (run.step (.release name)).1 := by
  have hbatch := h.batches name
  have hkept : ∀ n, run.find? n
      = (liveStep n (live? n past) (.release name)).map (Life.inFlight n) :=
    fun n => h.find?_kept rfl fun _ _ => rfl
  cases hlive : live? name past with
  | none =>
      rw [hlive] at hbatch
      have hstep : run.step (.release name) = (run, ⟨none, false⟩) := by
        simp only [Run.step, hbatch, Option.map_none]
      rw [hstep]
      refine h.concat rfl ?_ hkept rfl rfl
      simp only [callEvent?, hlive]
      rfl
  | some b =>
      rw [hlive] at hbatch
      have hstep : (run.step (.release name)).1 = { run with
          requests := (run.requests.step (.deliver name (check b.order.outcomes))).1 } := by
        simp only [Run.step, hbatch, Option.map_some, Life.inFlight]
      rw [hstep]
      refine h.concat rfl ?_ hkept rfl rfl
      simp only [callEvent?, hlive]
      rfl

theorem Keeps.drop (h : Keeps scope past run) (name : String) :
    Keeps scope (past ++ [.drop name]) (run.step (.drop name)).1 := by
  -- giving a call up has no effect on what can be seen
  have hvisible := Request.visible_step h.follows (.drop name)
  refine h.concat rfl rfl ?_ rfl (congrArg Prod.snd hvisible)
  refine h.find?_ended (fun _ => rfl) ?_ ?_
  · intro b _
    exact beq_self_eq_true name
  · intro n hn b
    exact beq_eq_false_iff_ne.mpr (Ne.symm hn)

theorem Keeps.step (h : Keeps scope past run) (e : Event κ) :
    Keeps scope (past ++ [e]) (run.step e).1 := by
  cases e with
  | start name order => exact h.start name order
  | release name => exact h.release name
  | poll name => exact h.poll name
  | drop name => exact h.drop name
  | cancel => exact h.concat rfl rfl (fun _ => h.find?_kept rfl fun _ _ => rfl) rfl rfl
  | clearError => exact h.concat rfl rfl (fun _ => h.find?_kept rfl fun _ _ => rfl) rfl rfl

theorem Keeps.initial (scope : Query.Scope) : Keeps scope [] (Run.initial scope : Run κ) where
  inScope := rfl
  requests := rfl
  batches _ := rfl
  refetches := rfl
  error := rfl

theorem keeps (scope : Query.Scope) (past : List (Event κ)) :
    Keeps scope past ((Run.initial scope).after past) := by
  induction past using List.reverseRecOn with
  | nil => exact Keeps.initial scope
  | append_singleton past e ih =>
      have hafter : (Run.initial scope).after (past ++ [e])
          = (((Run.initial scope).after past).step e).1 := List.foldl_append
      rw [hafter]
      exact ih.step e

/-- A list is loading while a batch is on its way that nothing has overtaken. -/
theorem Keeps.loading_iff (h : Keeps scope past run) :
    run.isLoading = true ↔ ∃ name b, live? name past = some b ∧ b.isOvertaken = false := by
  have honest : Request.Honest run.requests := by
    rw [h.requests]
    exact (Request.Honest.initial []).after (calls past)
  have hloading : run.isLoading = true ↔ _ := honest.loading_iff_alive h.follows
  rw [hloading]
  exact exists_congr fun name => (mirrors name past).alive_iff

/-- **Batches that overlap stay apart.**  At every moment of a run a poll of a batch finds what has
happened to that batch: nothing yet, its own outcomes once it is released, or that a later start or a
cancellation has overtaken it, and only in the last case the list abandons it.  The list has been
fetched again once for each batch that ended so, it shows the failure of the last batch that was not
abandoned, and it is loading while a batch is on its way that nothing has overtaken. -/
theorem batches_stay_apart (scope : Query.Scope) (past : List (Event κ)) :
    let run := (Run.initial scope).after past
    (∀ name, (run.step (.poll name)).2.poll = (live? name past).map (Life.found scope name)) ∧
    (∀ order : Order κ, (order.ending scope).followUp ≠ .abandoned) ∧
    run.refetches = (endings scope past).countP Outcome.isRefetched ∧
    run.error? = lastFailure scope past ∧
    (run.isLoading = true ↔ ∃ name b, live? name past = some b ∧ b.isOvertaken = false) := by
  intro run
  have h : Keeps scope past run := keeps scope past
  exact ⟨h.poll_eq, Order.next_ne_abandoned scope, h.refetches, h.error, h.loading_iff⟩

/-- Both batches are released, but the second one has overtaken the first. -/
theorem batches_stay_apart_two :
    let scope : Query.Scope := ⟨"team", Dict.empty, [Query.pageField], by decide⟩
    let first : Order Nat := ⟨[⟨1, none⟩], false, ""⟩
    let second : Order Nat := ⟨[⟨2, none⟩], true, "team.page=2"⟩
    let past : List (Event Nat) :=
      [.start "first" first, .start "second" second, .release "first", .release "second"]
    let run := (Run.initial scope).after past
    (run.step (.poll "first")).2.poll = some (.ended .abandoned) ∧
      (run.step (.poll "second")).2.poll = some (.ended (second.ending scope)) ∧
      run.refetches = 0 ∧ run.error? = none ∧ run.isLoading = true := by
  intro scope first second past run
  obtain ⟨hpoll, -, hrefetches, herror, hloading⟩ := batches_stay_apart scope past
  have halive : live? "second" past = some ⟨second, [.release "first", .release "second"]⟩ := rfl
  refine ⟨(hpoll "first").trans rfl, (hpoll "second").trans rfl, hrefetches.trans rfl,
    herror.trans rfl, hloading.mpr ⟨"second", _, halive, rfl⟩⟩

end AdminConsole.Batch
