/-
# `Proofs.Request.History` — the life of a call, read off what has happened

The program counts generations: each start and each cancellation takes the next
one, and a call remembers its own.  A *history* does not count anything.  It is
the list of what has happened to a run, and whether a call has been overtaken,
answered or ended is looked up in the events since its start.

`liveSince?` is the life of a call, `found` what a poll of it finds, and
`effects` are the changes of the value and the error that a history brings
about.  The last section is about replies that come too late: they change
neither how any call goes on nor the effects of whatever follows.
-/
import AdminConsole.Request.Run

namespace AdminConsole.Request

variable {κ ρ ε : Type}

/-! ## Histories -/

namespace Event

/-- Whether an event overtakes every call that started before it. -/
def overtakes : Event κ ρ ε → Bool
  | .start _ => true
  | .cancel => true
  | _ => false

variable [DecidableEq κ]

/-- Whether an event starts a call of a name. -/
def starts (id : κ) : Event κ ρ ε → Bool
  | .start i => i == id
  | _ => false

/-- The reply that an event delivers to a call. -/
def replyTo? (id : κ) : Event κ ρ ε → Option (Except ε ρ)
  | .deliver i reply => if i = id then some reply else none
  | _ => none

end Event

/-- Whether a start or a cancellation is among the events since a call's own start. -/
def isOvertaken (since : List (Event κ ρ ε)) : Bool := since.any Event.overtakes

variable [DecidableEq κ]

/-- The first reply that has been delivered to a call since its start. -/
def firstReply? (id : κ) (since : List (Event κ ρ ε)) : Option (Except ε ρ) :=
  since.findSome? (Event.replyTo? id)

/-- The reply that a poll of a call takes: one that was delivered, unless it comes too late. -/
def taken? (id : κ) (since : List (Event κ ρ ε)) : Option (Except ε ρ) :=
  if isOvertaken since then none else firstReply? id since

/-- What a poll of a call finds. -/
def found (id : κ) (since : List (Event κ ρ ε)) : Poll :=
  if isOvertaken since then .settled .superseded
  else match firstReply? id since with
    | some reply => .settled (outcomeOf reply)
    | none => .pending

/-- Whether an event ends a call: it is dropped, or polled when there is something to find. -/
def endsCall (id : κ) (since : List (Event κ ρ ε)) : Event κ ρ ε → Bool
  | .drop i => i == id
  | .poll i => i == id && found id since != .pending
  | _ => false

/-- One more event in the life of a call. -/
def liveStep (id : κ) (since? : Option (List (Event κ ρ ε))) (e : Event κ ρ ε) :
    Option (List (Event κ ρ ε)) :=
  if e.starts id then some []
  else since?.bind fun since => if endsCall id since e then none else some (since ++ [e])

/-- The events since the start of the call of a name, if that call has not ended yet. -/
def liveSince? (id : κ) (past : List (Event κ ρ ε)) : Option (List (Event κ ρ ε)) :=
  past.foldl (liveStep id) none

/-- A change of what can be seen of a run. -/
inductive Effect (ρ ε : Type) where
  | set (value : ρ)
  | change (f : ρ → ρ)
  | dismiss
  | succeed (value : ρ)
  | fail (e : ε)

/-- What a change makes of the value and the error. -/
def Effect.apply : ρ × Option ε → Effect ρ ε → ρ × Option ε
  | (_, error), .set value => (value, error)
  | (result, error), .change f => (f result, error)
  | (result, _), .dismiss => (result, none)
  | _, .succeed value => (value, none)
  | (result, _), .fail e => (result, some e)

/-- The change that a reply brings about. -/
def Effect.ofReply : Except ε ρ → Effect ρ ε
  | .ok value => .succeed value
  | .error e => .fail e

/-- The change that an event brings about after a history. -/
def effect? (past : List (Event κ ρ ε)) : Event κ ρ ε → Option (Effect ρ ε)
  | .setValue value => some (.set value)
  | .updateValue f => some (.change f)
  | .dismiss => some .dismiss
  | .poll id => ((liveSince? id past).bind (taken? id)).map Effect.ofReply
  | _ => none

/-- The changes of further events after a history. -/
def effectsFrom (past : List (Event κ ρ ε)) : List (Event κ ρ ε) → List (Effect ρ ε)
  | [] => []
  | e :: events => (effect? past e).toList ++ effectsFrom (past ++ [e]) events

/-- The changes of a whole history, in their order. -/
def effects (past : List (Event κ ρ ε)) : List (Effect ρ ε) := effectsFrom [] past

/-! ### One more event -/

section Concat

variable (id : κ) (past since : List (Event κ ρ ε)) (e : Event κ ρ ε)

theorem liveSince?_concat : liveSince? id (past ++ [e]) = liveStep id (liveSince? id past) e := by
  simp only [liveSince?]
  rw [List.foldl_append]
  rfl

theorem firstReply?_concat :
    firstReply? id (since ++ [e]) = (firstReply? id since).or (e.replyTo? id) := by
  simp only [firstReply?]
  rw [List.findSome?_append]
  congr 1
  cases h : e.replyTo? id <;> simp [h]

omit [DecidableEq κ] in
theorem isOvertaken_concat : isOvertaken (since ++ [e]) = (isOvertaken since || e.overtakes) := by
  simp only [isOvertaken]
  rw [List.any_append]
  simp

theorem effectsFrom_append (events later : List (Event κ ρ ε)) :
    effectsFrom past (events ++ later)
      = effectsFrom past events ++ effectsFrom (past ++ events) later := by
  induction events generalizing past with
  | nil => rw [List.append_nil, List.nil_append]; rfl
  | cons e' events ih =>
      show (effect? past e').toList ++ effectsFrom (past ++ [e']) (events ++ later) = _
      rw [ih, List.append_assoc past, List.singleton_append, ← List.append_assoc]
      rfl

theorem effects_append (later : List (Event κ ρ ε)) :
    effects (past ++ later) = effects past ++ effectsFrom past later :=
  effectsFrom_append [] past later

theorem effects_concat : effects (past ++ [e]) = effects past ++ (effect? past e).toList := by
  rw [effects_append]
  show effects past ++ ((effect? past e).toList ++ []) = _
  rw [List.append_nil]

end Concat

/-! ## Late replies -/

/-- Lives of a call that no poll can tell apart, now or later. -/
def Alike (id : κ) : Option (List (Event κ ρ ε)) → Option (List (Event κ ρ ε)) → Prop
  | none, none => True
  | some since, some since' =>
      isOvertaken since = isOvertaken since' ∧
      (isOvertaken since = false → firstReply? id since = firstReply? id since')
  | _, _ => False

section Alike

variable {id : κ} {since since' : List (Event κ ρ ε)}
  {live live' : Option (List (Event κ ρ ε))} {past past' : List (Event κ ρ ε)}

theorem Alike.refl : ∀ live : Option (List (Event κ ρ ε)), Alike id live live
  | none => trivial
  | some _ => ⟨rfl, fun _ => rfl⟩

theorem Alike.found (h : Alike id (some since) (some since')) :
    found id since = found id since' := by
  obtain ⟨ho, hr⟩ := h
  simp only [AdminConsole.Request.found]
  rw [← ho]
  cases hs : isOvertaken since with
  | true => rfl
  | false => rw [hr hs]

theorem Alike.taken (h : Alike id (some since) (some since')) :
    taken? id since = taken? id since' := by
  obtain ⟨ho, hr⟩ := h
  simp only [taken?]
  rw [← ho]
  cases hs : isOvertaken since with
  | true => rfl
  | false => simp only [hr hs]

theorem Alike.endsCall (h : Alike id (some since) (some since')) (e : Event κ ρ ε) :
    endsCall id since e = endsCall id since' e := by
  cases e <;> simp only [AdminConsole.Request.endsCall, h.found]

theorem Alike.concat (h : Alike id (some since) (some since')) (e : Event κ ρ ε) :
    Alike id (some (since ++ [e])) (some (since' ++ [e])) := by
  obtain ⟨ho, hr⟩ := h
  constructor
  · rw [isOvertaken_concat, isOvertaken_concat, ho]
  · intro hnew
    rw [isOvertaken_concat, Bool.or_eq_false_iff] at hnew
    rw [firstReply?_concat, firstReply?_concat, hr hnew.1]

theorem Alike.step (h : Alike id live live') (e : Event κ ρ ε) :
    Alike id (liveStep id live e) (liveStep id live' e) := by
  simp only [liveStep]
  split
  · exact Alike.refl _
  · cases live with
    | none =>
        cases live' with
        | none => trivial
        | some since' => exact h.elim
    | some since =>
        cases live' with
        | none => exact h.elim
        | some since' =>
            simp only [Option.bind_some, h.endsCall e]
            split
            · trivial
            · exact h.concat e

theorem effect?_congr (h : ∀ id, Alike id (liveSince? id past) (liveSince? id past'))
    (e : Event κ ρ ε) : effect? past e = effect? past' e := by
  cases e with
  | poll id =>
      have hid := h id
      simp only [effect?]
      cases hlive : liveSince? id past with
      | none =>
          cases hlive' : liveSince? id past' with
          | none => rfl
          | some since' =>
              rw [hlive, hlive'] at hid
              exact hid.elim
      | some since =>
          cases hlive' : liveSince? id past' with
          | none =>
              rw [hlive, hlive'] at hid
              exact hid.elim
          | some since' =>
              rw [hlive, hlive'] at hid
              simp only [Option.bind_some, hid.taken]
  | start id => rfl
  | deliver id reply => rfl
  | setValue value => rfl
  | updateValue f => rfl
  | dismiss => rfl
  | cancel => rfl
  | drop id => rfl

theorem effectsFrom_congr (h : ∀ id, Alike id (liveSince? id past) (liveSince? id past'))
    (later : List (Event κ ρ ε)) : effectsFrom past later = effectsFrom past' later := by
  induction later generalizing past past' with
  | nil => rfl
  | cons e later ih =>
      have hstep : ∀ id, Alike id (liveSince? id (past ++ [e])) (liveSince? id (past' ++ [e])) := by
        intro id
        rw [liveSince?_concat, liveSince?_concat]
        exact (h id).step e
      show (effect? past e).toList ++ _ = (effect? past' e).toList ++ _
      rw [effect?_congr h, ih hstep]

/-- A reply that comes too late, or to a call that is gone, does not change how any call goes on. -/
theorem alike_deliver (h : ∀ since, liveSince? id past = some since → isOvertaken since = true)
    (reply : Except ε ρ) (id' : κ) :
    Alike id' (liveSince? id' (past ++ [.deliver id reply])) (liveSince? id' past) := by
  rw [liveSince?_concat]
  cases hlive : liveSince? id' past with
  | none => trivial
  | some since =>
      refine ⟨?_, ?_⟩
      · rw [isOvertaken_concat]
        exact Bool.or_false _
      · intro hnew
        rw [firstReply?_concat]
        by_cases hid : id = id'
        · -- then the call has been overtaken
          subst hid
          rw [isOvertaken_concat, h since hlive] at hnew
          cases hnew
        · simp [Event.replyTo?, hid]

end Alike

end AdminConsole.Request
