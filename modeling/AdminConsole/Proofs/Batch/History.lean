/-
# `Proofs.Batch.History` — the life of a batch, read off what has happened

A history is the list of what has happened to the batches of one list.  What it
says of a batch is looked up in the events since the batch was started
(`live?`): whether a later start or a cancellation has overtaken it, whether it
has been released with its outcomes, and so what a poll of it finds.  Nothing of
the state that all batches share is used for that.

The endings of a history are the outcomes that its polls find (`endings`), and
the last failure is that of the last batch that was not abandoned, unless it was
cleared since (`lastFailure`).

A batch runs as a call of the shared state.  Its history as a call (`calls`) has
a delivery where the batch is released, and says the same of it (`mirrors`).
-/
import AdminConsole.Proofs.Batch.Outcome
import AdminConsole.Proofs.Request.History
import Mathlib.Data.List.Induction

namespace AdminConsole.Batch

variable {κ : Type}

/-! ## Histories -/

namespace Event

/-- Whether an event overtakes every batch that started before it. -/
def overtakes : Event κ → Bool
  | .start .. => true
  | .cancel => true
  | _ => false

/-- What an event starts under a name. -/
def orderFor? (name : String) : Event κ → Option (Order κ)
  | .start n order => if n = name then some order else none
  | _ => none

/-- Whether an event releases the batch of a name. -/
def releases (name : String) : Event κ → Bool
  | .release n => n == name
  | _ => false

end Event

def Outcome.abandoned : Outcome κ := ⟨.ok [], .abandoned⟩

/-- A batch in a history: what it was started with, and what has happened since. -/
structure Life (κ : Type) where
  order : Order κ
  since : List (Event κ)

namespace Life

def isOvertaken (b : Life κ) : Bool := b.since.any Event.overtakes

def isReleased (name : String) (b : Life κ) : Bool := b.since.any (Event.releases name)

/-- What a poll of a batch finds. -/
def found (scope : Query.Scope) (name : String) (b : Life κ) : Poll κ :=
  if b.isOvertaken then .ended .abandoned
  else if b.isReleased name then .ended (b.order.ending scope)
  else .pending

/-- Whether an event ends a batch: it is dropped, or polled when there is something to find. -/
def ends (name : String) (b : Life κ) : Event κ → Bool
  | .drop n => n == name
  | .poll n => n == name && (b.isOvertaken || b.isReleased name)
  | _ => false

/-- A batch with one more event behind it. -/
def andThen (b : Life κ) (e : Event κ) : Life κ := { b with since := b.since ++ [e] }

end Life

/-- One more event in the life of the batch of a name. -/
def liveStep (name : String) (life? : Option (Life κ)) (e : Event κ) : Option (Life κ) :=
  match e.orderFor? name with
  | some order => some ⟨order, []⟩
  | none => life?.bind fun b => if b.ends name e then none else some (b.andThen e)

/-- The batch of a name that is alive after a history: started, and neither ended nor dropped. -/
def live? (name : String) (past : List (Event κ)) : Option (Life κ) :=
  past.foldl (liveStep name) none

/-! ## What a history gives -/

/-- What events give, each seen with all that came before it. -/
def gatherFrom {α β : Type} (f : List α → α → Option β) (past : List α) : List α → List β
  | [] => []
  | e :: events => (f past e).toList ++ gatherFrom f (past ++ [e]) events

/-- What the events of a history give. -/
def gather {α β : Type} (f : List α → α → Option β) (past : List α) : List β := gatherFrom f [] past

def Poll.outcome? : Poll κ → Option (Outcome κ)
  | .pending => none
  | .ended o => some o

/-- The outcome that an event finds after a history. -/
def ending? (scope : Query.Scope) (past : List (Event κ)) : Event κ → Option (Outcome κ)
  | .poll name => (live? name past).bind fun b => (b.found scope name).outcome?
  | _ => none

/-- How the batches of a history have ended, in that order. -/
def endings (scope : Query.Scope) (past : List (Event κ)) : List (Outcome κ) :=
  gather (ending? scope) past

def failureOf : Except (DeletionError κ) (List κ) → Option (DeletionError κ)
  | .ok _ => none
  | .error e => some e

/-- What an outcome says about the last failure; an abandoned batch says nothing. -/
def Outcome.verdict? (o : Outcome κ) : Option (Option (DeletionError κ)) :=
  if o.followUp = .abandoned then none else some (failureOf o.result)

/-- What an event says about the last failure: a clearing takes it away. -/
def verdict? (scope : Query.Scope) (past : List (Event κ)) :
    Event κ → Option (Option (DeletionError κ))
  | .clearError => some none
  | e => (ending? scope past e).bind Outcome.verdict?

/-- The failure of the last batch of a history that was not abandoned, if it has failed and that was
not cleared since. -/
def lastFailure (scope : Query.Scope) (past : List (Event κ)) : Option (DeletionError κ) :=
  (gather (verdict? scope) past).getLast?.join

/-- What happens to the shared state with an event: a release delivers what the batch was started
with, if it is alive. -/
def callEvent? (past : List (Event κ)) :
    Event κ → Option (Request.Event String (List κ) (DeletionError κ))
  | .start name _ => some (.start name)
  | .release name => (live? name past).map fun b => .deliver name (check b.order.outcomes)
  | .poll name => some (.poll name)
  | .drop name => some (.drop name)
  | .cancel => some .cancel
  | .clearError => some .dismiss

/-- What happens to the shared state in a history. -/
def calls (past : List (Event κ)) : List (Request.Event String (List κ) (DeletionError κ)) :=
  gather callEvent? past

/-! ### One more event -/

theorem gatherFrom_concat {α β : Type} (f : List α → α → Option β) (past events : List α) (e : α) :
    gatherFrom f past (events ++ [e])
      = gatherFrom f past events ++ (f (past ++ events) e).toList := by
  induction events generalizing past with
  | nil =>
      show (f past e).toList ++ [] = [] ++ (f (past ++ []) e).toList
      rw [List.append_nil, List.append_nil, List.nil_append]
  | cons e' events ih =>
      show (f past e').toList ++ gatherFrom f (past ++ [e']) (events ++ [e]) = _
      rw [ih, List.append_assoc past, List.singleton_append, ← List.append_assoc]
      rfl

theorem gather_concat {α β : Type} (f : List α → α → Option β) (past : List α) (e : α) :
    gather f (past ++ [e]) = gather f past ++ (f past e).toList :=
  gatherFrom_concat f [] past e

theorem live?_concat (name : String) (past : List (Event κ)) (e : Event κ) :
    live? name (past ++ [e]) = liveStep name (live? name past) e := by
  simp only [live?]
  rw [List.foldl_append]
  rfl

theorem calls_concat (past : List (Event κ)) (e : Event κ) :
    calls (past ++ [e]) = calls past ++ (callEvent? past e).toList := gather_concat callEvent? past e

@[simp] theorem Life.order_andThen (b : Life κ) (e : Event κ) : (b.andThen e).order = b.order := rfl

@[simp] theorem Life.isOvertaken_andThen (b : Life κ) (e : Event κ) :
    (b.andThen e).isOvertaken = (b.isOvertaken || e.overtakes) := by
  simp [Life.isOvertaken, Life.andThen]

@[simp] theorem Life.isReleased_andThen (name : String) (b : Life κ) (e : Event κ) :
    (b.andThen e).isReleased name = (b.isReleased name || e.releases name) := by
  simp [Life.isReleased, Life.andThen]

theorem Life.ends_poll (scope : Query.Scope) (name : String) (b : Life κ) :
    b.ends name (.poll name) = (b.found scope name).outcome?.isSome := by
  simp only [Life.ends, Life.found, beq_self_eq_true, Bool.true_and]
  cases b.isOvertaken with
  | true => rfl
  | false => cases b.isReleased name <;> rfl

theorem Order.verdict?_ending (scope : Query.Scope) (order : Order κ) :
    (order.ending scope).verdict? = some (failureOf (check order.outcomes)) :=
  if_neg (order.next_ne_abandoned scope)

/-! ## The history of a batch as a call -/

/-- The reply that a batch has been given: its own outcomes, once it is released. -/
def Life.reply? (name : String) (b : Life κ) : Option (Except (DeletionError κ) (List κ)) :=
  if b.isReleased name then some (check b.order.outcomes) else none

/-- A batch and the call that it runs as have been overtaken alike, and the call has the batch's own
reply. -/
structure Mirror (name : String) (b : Life κ)
    (since : List (Request.Event String (List κ) (DeletionError κ))) : Prop where
  overtaken : Request.isOvertaken since = b.isOvertaken
  reply : Request.firstReply? name since = b.reply? name

/-- The batch and the call of a name are alive together. -/
def Mirrors (name : String) :
    Option (Life κ) → Option (List (Request.Event String (List κ) (DeletionError κ))) → Prop
  | none, none => True
  | some b, some since => Mirror name b since
  | _, _ => False

section Mirrors

variable {name : String} {b : Life κ} {life? : Option (Life κ)}
  {since : List (Request.Event String (List κ) (DeletionError κ))}
  {since? : Option (List (Request.Event String (List κ) (DeletionError κ)))}
  {past : List (Event κ)}

theorem Mirror.found (h : Mirror name b since) :
    (Request.found name since != .pending) = (b.isOvertaken || b.isReleased name) := by
  simp only [Request.found]
  rw [h.overtaken, h.reply]
  cases b.isOvertaken with
  | true => rfl
  | false =>
      simp only [Life.reply?]
      cases b.isReleased name <;> rfl

theorem Mirrors.alive_iff (h : Mirrors name life? since?) :
    (∃ since, since? = some since ∧ Request.isOvertaken since = false) ↔
      ∃ b, life? = some b ∧ b.isOvertaken = false := by
  cases life? with
  | none =>
      cases since? with
      | none => simp
      | some since => exact h.elim
  | some b =>
      cases since? with
      | none => exact h.elim
      | some since =>
          have hb : Mirror name b since := h
          simp [hb.overtaken]

/-- An event that starts neither leaves both alive or ends both. -/
theorem Mirrors.step (h : Mirrors name life? since?) {e : Event κ}
    {e' : Request.Event String (List κ) (DeletionError κ)} (start : e.orderFor? name = none)
    (start' : e'.starts name = false) (overtakes : e'.overtakes = e.overtakes)
    (ends : ∀ b since, Mirror name b since → Request.endsCall name since e' = b.ends name e)
    (reply : ∀ b since, life? = some b → Mirror name b since →
      (b.reply? name).or (e'.replyTo? name) = (b.andThen e).reply? name) :
    Mirrors name (liveStep name life? e) (Request.liveStep name since? e') := by
  simp only [liveStep, Request.liveStep, start, start']
  cases life? with
  | none =>
      cases since? with
      | none => trivial
      | some since => exact h.elim
  | some b =>
      cases since? with
      | none => exact h.elim
      | some since =>
          have hb : Mirror name b since := h
          simp only [Option.bind_some, ends b since hb, Bool.false_eq_true, if_false]
          split
          · trivial
          · constructor
            · rw [Request.isOvertaken_concat, hb.overtaken, overtakes, Life.isOvertaken_andThen]
            · rw [Request.firstReply?_concat, hb.reply, reply b since rfl hb]

theorem Life.reply?_andThen_of_not {e : Event κ} (h : e.releases name = false) :
    (b.reply? name).or none = (b.andThen e).reply? name := by
  simp only [Life.reply?, Life.isReleased_andThen, Life.order_andThen, h, Bool.or_false,
    Option.or_none]

theorem mirrors_release_none {n : String} (h : Mirrors name (live? name past) since?)
    (hn : live? n past = none) :
    Mirrors name (liveStep name (live? name past) (.release n)) since? := by
  cases hlive : live? name past with
  | none =>
      rw [hlive] at h
      exact h
  | some b =>
      rw [hlive] at h
      have hne : n ≠ name := fun he => by rw [he, hlive] at hn; cases hn
      cases since? with
      | none => exact h.elim
      | some since =>
          have hb : Mirror name b since := h
          constructor
          · rw [hb.overtaken, Life.isOvertaken_andThen]
            exact (Bool.or_false _).symm
          · rw [hb.reply, ← Life.reply?_andThen_of_not (by simp [Event.releases, hne]),
              Option.or_none]

theorem mirrors_release_some {n : String} {released : Life κ}
    (h : Mirrors name (live? name past) since?) (hn : live? n past = some released) :
    Mirrors name (liveStep name (live? name past) (.release n))
      (Request.liveStep name since? (.deliver n (check released.order.outcomes))) := by
  refine h.step rfl rfl rfl (fun _ _ _ => rfl) fun b since hlive _ => ?_
  by_cases he : n = name
  · subst he
    rw [hn] at hlive
    cases hlive
    simp only [Life.reply?, Life.isReleased_andThen, Life.order_andThen, Event.releases,
      Request.Event.replyTo?, beq_self_eq_true, Bool.or_true, if_true]
    split <;> rfl
  · simp only [Request.Event.replyTo?]
    rw [if_neg he]
    exact Life.reply?_andThen_of_not (by simp [Event.releases, he])

theorem mirrors_concat (h : Mirrors name (live? name past) (Request.liveSince? name (calls past)))
    (e : Event κ) : Mirrors name (live? name (past ++ [e]))
      (Request.liveSince? name (calls (past ++ [e]))) := by
  rw [live?_concat, calls_concat]
  have called : ∀ e', callEvent? past e = some e' →
      Mirrors name (liveStep name (live? name past) e)
        (Request.liveStep name (Request.liveSince? name (calls past)) e') →
      Mirrors name (liveStep name (live? name past) e)
        (Request.liveSince? name (calls past ++ (callEvent? past e).toList)) := by
    intro e' he hstep
    rw [he, Option.toList_some, Request.liveSince?_concat]
    exact hstep
  cases e with
  | start n order =>
      refine called _ rfl ?_
      by_cases he : n = name
      · subst he
        simp only [liveStep, Request.liveStep, Event.orderFor?, Request.Event.starts, if_true,
          beq_self_eq_true]
        exact ⟨rfl, rfl⟩
      · have hne : (n == name) = false := beq_eq_false_iff_ne.mpr he
        exact h.step (if_neg he) hne rfl (fun _ _ _ => rfl) fun _ _ _ _ =>
          Life.reply?_andThen_of_not rfl
  | release n =>
      cases hn : live? n past with
      | none =>
          have he : callEvent? past (.release n) = none := by
            simp only [callEvent?, hn, Option.map_none]
          rw [he, Option.toList_none, List.append_nil]
          exact mirrors_release_none h hn
      | some released =>
          refine called _ ?_ (mirrors_release_some h hn)
          simp only [callEvent?, hn, Option.map_some]
  | poll n =>
      refine called _ rfl (h.step rfl rfl rfl ?_ fun _ _ _ _ => Life.reply?_andThen_of_not rfl)
      intro b since hb
      simp only [Request.endsCall, Life.ends, hb.found]
  | drop n =>
      exact called _ rfl (h.step rfl rfl rfl (fun _ _ _ => rfl) fun _ _ _ _ =>
        Life.reply?_andThen_of_not rfl)
  | cancel =>
      exact called _ rfl (h.step rfl rfl rfl (fun _ _ _ => rfl) fun _ _ _ _ =>
        Life.reply?_andThen_of_not rfl)
  | clearError =>
      exact called _ rfl (h.step rfl rfl rfl (fun _ _ _ => rfl) fun _ _ _ _ =>
        Life.reply?_andThen_of_not rfl)

/-- **A batch and its call have the same life.** -/
theorem mirrors (name : String) (past : List (Event κ)) :
    Mirrors name (live? name past) (Request.liveSince? name (calls past)) := by
  induction past using List.reverseRecOn with
  | nil => trivial
  | append_singleton past e ih => exact mirrors_concat ih e

end Mirrors

end AdminConsole.Batch
