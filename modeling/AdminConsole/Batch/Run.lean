/-
# `Batch.Run` — runs of batches over one request state

A batch that has started waits until it is released with its outcomes.  When it
is polled then, it settles the state, unless a newer batch or a cancellation has
overtaken it, and says what the list does next.
-/
import AdminConsole.Batch.Outcome
import AdminConsole.Request.Run

namespace AdminConsole.Batch

/-- What a batch is started with. -/
structure Order (κ : Type) where
  outcomes : List (ItemOutcome κ)
  allSelected : Bool
  search : String

/-- The state of the batches of one list; its value is what the last batch did. -/
abbrev State (κ : Type) := Request (List κ) (DeletionError κ)

/-- A batch on its way, under a name. -/
structure InFlight (κ : Type) where
  name : String
  order : Order κ

/-- The batches of one list, and how often the list was fetched again. -/
structure Run (κ : Type) where
  scope : Query.Scope
  requests : Request.Run String (List κ) (DeletionError κ)
  inFlight : List (InFlight κ)
  refetches : Nat

/-- What may happen in a run. -/
inductive Event (κ : Type) where
  | start (name : String) (order : Order κ)
  | release (name : String)
  | poll (name : String)
  | drop (name : String)
  | cancel
  | clearError

/-- What a poll of a batch finds. -/
inductive Poll (κ : Type) where
  | pending
  | ended (outcome : Outcome κ)

/-- What can be seen of a step. -/
structure Seen (κ : Type) where
  poll : Option (Poll κ)
  notified : Bool

variable {κ : Type}

/-- How a settled batch ends: with the value or the error that it left in the state. -/
def resultOf (how : Settlement) (state : State κ) : Except (DeletionError κ) (List κ) :=
  match how, state.error with
  | .superseded, _ => .ok []
  | .failed, some e => .error e
  | _, _ => .ok state.result

/-- What the list does after a settled batch. -/
def followUpOf (scope : Query.Scope) (how : Settlement) (order : Order κ) : FollowUp :=
  match how with
  | .superseded => .abandoned
  | _ => match previousPage? scope order.allSelected order.search with
    | some search => .navigate search
    | none => .refetched

namespace Run

def initial (scope : Query.Scope) : Run κ := ⟨scope, Request.Run.initial [], [], 0⟩

def find? (run : Run κ) (name : String) : Option (InFlight κ) :=
  run.inFlight.find? fun b => b.name == name

def others (run : Run κ) (name : String) : List (InFlight κ) :=
  run.inFlight.filter fun b => b.name != name

def finish (run : Run κ) (b : InFlight κ) (how : Settlement) : Run κ × Outcome κ :=
  let followUp := followUpOf run.scope how b.order
  let refetches := if followUp = .refetched then run.refetches + 1 else run.refetches
  ({ run with inFlight := run.others b.name, refetches },
    ⟨resultOf how run.requests.state, followUp⟩)

def poll (run : Run κ) (b : InFlight κ) : Run κ × Seen κ :=
  let (requests, seen) := run.requests.step (.poll b.name)
  let run := { run with requests }
  match seen.poll with
  | some (.settled how) =>
    let (run, outcome) := run.finish b how
    (run, ⟨some (.ended outcome), seen.notified⟩)
  | some .pending => (run, ⟨some .pending, seen.notified⟩)
  | none => (run, ⟨none, seen.notified⟩)

def step (run : Run κ) : Event κ → Run κ × Seen κ
  | .start name order =>
    let (requests, seen) := run.requests.step (.start name)
    ({ run with requests, inFlight := run.others name ++ [⟨name, order⟩] },
      ⟨some .pending, seen.notified⟩)
  | .release name => match run.find? name with
    | some b =>
      let (requests, _) := run.requests.step (.deliver name (check b.order.outcomes))
      ({ run with requests }, ⟨none, false⟩)
    | none => (run, ⟨none, false⟩)
  | .poll name => match run.find? name with
    | some b => run.poll b
    | none => (run, ⟨none, false⟩)
  | .drop name =>
    let (requests, seen) := run.requests.step (.drop name)
    ({ run with requests, inFlight := run.others name }, ⟨none, seen.notified⟩)
  | .cancel =>
    let (requests, seen) := run.requests.step .cancel
    ({ run with requests }, ⟨none, seen.notified⟩)
  | .clearError =>
    let (requests, seen) := run.requests.step .dismiss
    ({ run with requests }, ⟨none, seen.notified⟩)

def after (run : Run κ) (events : List (Event κ)) : Run κ :=
  events.foldl (fun run e => (run.step e).1) run

def error? (run : Run κ) : Option (DeletionError κ) := run.requests.state.error

def isLoading (run : Run κ) : Bool := run.requests.state.isLoading

end Run

end AdminConsole.Batch
