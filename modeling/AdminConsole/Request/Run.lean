/-
# `Request.Run` — runs of calls over one request state

A call that has started waits until its reply is delivered and goes on only when
it is polled; a poll of a call whose generation has passed ends the call, with
or without a reply.
-/
import AdminConsole.Request.State

namespace AdminConsole.Request

variable {κ ρ ε : Type}

/-- A call that has neither ended nor been dropped. -/
structure Call (κ ρ ε : Type) where
  id : κ
  generation : Nat
  reply : Option (Except ε ρ)

/-- What a poll of a call finds. -/
inductive Poll where
  | pending
  | settled (how : Settlement)
  deriving DecidableEq, Repr

/-- A request state with the calls that are alive. -/
structure Run (κ ρ ε : Type) where
  state : Request ρ ε
  calls : List (Call κ ρ ε)

/-- What may happen in a run. -/
inductive Event (κ ρ ε : Type) where
  | start (id : κ)
  | deliver (id : κ) (reply : Except ε ρ)
  | poll (id : κ)
  | drop (id : κ)
  | setValue (value : ρ)
  | updateValue (f : ρ → ρ)
  | dismiss
  | cancel

/-- What can be seen of a step: what a poll found, and whether watchers were notified. -/
structure Seen where
  poll : Option Poll
  notified : Bool
  deriving DecidableEq, Repr

namespace Run

variable [DecidableEq κ]

def initial (result : ρ) : Run κ ρ ε := ⟨idle result, []⟩

def call? (run : Run κ ρ ε) (id : κ) : Option (Call κ ρ ε) := run.calls.find? fun c => c.id == id

def others (run : Run κ ρ ε) (id : κ) : List (Call κ ρ ε) := run.calls.filter fun c => c.id != id

/-- Give a waiting call its reply; a call takes the first one. -/
def deliverTo (id : κ) (reply : Except ε ρ) (c : Call κ ρ ε) : Call κ ρ ε :=
  if c.id == id && c.reply.isNone then { c with reply := some reply } else c

def pollCall (run : Run κ ρ ε) (c : Call κ ρ ε) : Run κ ρ ε × Seen :=
  if run.state.isNewest c.generation then
    match c.reply with
    | none => (run, ⟨some .pending, false⟩)
    | some reply =>
      let (how, change) := run.state.settle c.generation reply
      (⟨change.state, run.others c.id⟩, ⟨some (.settled how), change.notified⟩)
  else ({ run with calls := run.others c.id }, ⟨some (.settled .superseded), false⟩)

def start (run : Run κ ρ ε) (id : κ) : Run κ ρ ε :=
  let state := run.state.start
  ⟨state, run.others id ++ [⟨id, state.generation, none⟩]⟩

def step (run : Run κ ρ ε) : Event κ ρ ε → Run κ ρ ε × Seen
  | .start id => (run.start id, ⟨some .pending, true⟩)
  | .deliver id reply => ({ run with calls := run.calls.map (deliverTo id reply) }, ⟨none, false⟩)
  | .poll id => match run.call? id with
    | some c => run.pollCall c
    | none => (run, ⟨none, false⟩)
  | .drop id => match run.call? id with
    | some c =>
      let change := run.state.abandon c.generation
      (⟨change.state, run.others id⟩, ⟨none, change.notified⟩)
    | none => (run, ⟨none, false⟩)
  | .setValue value => ({ run with state := run.state.setValue value }, ⟨none, true⟩)
  | .updateValue f => ({ run with state := run.state.updateValue f }, ⟨none, true⟩)
  | .dismiss =>
    let change := run.state.dismiss
    ({ run with state := change.state }, ⟨none, change.notified⟩)
  | .cancel => ({ run with state := run.state.cancel }, ⟨none, true⟩)

def after (run : Run κ ρ ε) (events : List (Event κ ρ ε)) : Run κ ρ ε :=
  events.foldl (fun run e => (run.step e).1) run

end Run

end AdminConsole.Request
