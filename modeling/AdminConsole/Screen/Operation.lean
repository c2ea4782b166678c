/-
# `Screen.Operation` — the operations of a screen that call the service

Each takes the screen and gives the screen that it leaves together with a
result.  They are written over any service, which may depend on the phase in
which the screen asks it.
-/
import AdminConsole.Api.Flight
import AdminConsole.DeleteDetails
import AdminConsole.Screen.State

namespace AdminConsole

namespace Screen

open Batch

variable {m : Type → Type} [Monad m]

/-! ## Fetching -/

/-- The screen while the page at its location is fetched. -/
def startFetch (s : Screen) : Screen := { s with fetch := s.fetch.start }

/-- The screen after the newest fetch has been answered, and how the fetch ended. -/
def settleFetch (s : Screen) (reply : Except ApiError Page) : Screen × Settlement :=
  let (how, change) := s.fetch.settle s.fetch.generation reply
  ({ s with fetch := change.state }, how)

/-- Fetch the page at the location and bring its rows into view. -/
def load (service : Phase → Service m) (s : Screen) : m (Screen × Settlement) := do
  let s := s.startFetch
  let reply ← (service s.phase).carryOut s.pagePlan
  let (s, how) := s.settleFetch reply
  pure (s.showRows, how)

def navigate (service : Phase → Service m) (s : Screen) (search : String) : m (Screen × Settlement) :=
  load service (s.moveTo search)

def edit (service : Phase → Service m) (s : Screen) (e : Search.Edit) : m (Screen × Settlement) :=
  navigate service s (e.relocate s.scope s.location)

/-! ## Batches -/

/-- Do one thing to many resources at once. -/
def fanOut (call : ResourceId → Call Unit) (ids : List ResourceId) :
    Plan (List (ItemOutcome ResourceId)) :=
  Plan.all (ids.map fun id => (Plan.call (call id)).attempt.map (ItemOutcome.ofResult id))

/-- What became of each resource; where nothing could be carried out, every one has failed. -/
def outcomesOf (ids : List ResourceId) :
    Except ApiError (List (ItemOutcome ResourceId)) → List (ItemOutcome ResourceId)
  | .ok outcomes => outcomes
  | .error e => ids.map fun id => ⟨id, some e⟩

/-- The screen after its batch has been carried out, and how the batch ended. -/
def settleBatch (s : Screen) (order : Order ResourceId) : Screen × Outcome ResourceId :=
  let (how, change) := s.deletion.settle s.deletion.generation (check order.outcomes)
  ({ s with deletion := change.state },
    ⟨resultOf how change.state, followUpOf s.scope how order⟩)

def followUp (service : Phase → Service m) (s : Screen) : FollowUp → m Screen
  | .navigate search => return (← navigate service s search).1
  | .refetched => return (← load service s).1
  | .abandoned => pure s

/-- Do one thing to the selected rows, fetch again, and select nothing. -/
def runBatch (service : Phase → Service m) (s : Screen) (call : ResourceId → Call Unit) :
    m (Screen × Outcome ResourceId) := do
  let ids := s.selectedIds
  let allSelected := s.selection.isAllSelected
  let s := { s with deletion := s.deletion.start }
  let reply ← (service s.phase).carryOut (fanOut call ids)
  let (s, outcome) := s.settleBatch ⟨outcomesOf ids reply, allSelected, s.location⟩
  let s ← followUp service s outcome.followUp
  pure ({ s with selection := s.selection.clear }, outcome)

def delete (service : Phase → Service m) (s : Screen) : m (Screen × Outcome ResourceId) :=
  runBatch service s fun id => .destroy s.kind id

/-- Detach the selected rows from the endpoint of the screen. -/
def disassociate (service : Phase → Service m) (s : Screen) : m (Screen × Outcome ResourceId) :=
  runBatch service s fun id => .associate s.endpoint ⟨id, true⟩

/-- What refers to the selected row, if it is the only one. -/
def details (service : Phase → Service m) (s : Screen) :
    m (Except ApiError (Option (List RelatedCount))) :=
  (service s.phase).carryOut (deleteDetailsFor s.kind s.selectedIds)

end Screen

end AdminConsole
