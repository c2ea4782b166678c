/-
# `Command.Run` — carrying out what a command line asks for

Commands are written over any service.  A command reports, and may fail whether
or not it has reported.  A removal changes nothing before it has seen every
resource that it was given, before it knows that each may be deleted, and before
it is confirmed.
-/
import AdminConsole.Command.Report
import AdminConsole.Http.Request
import AdminConsole.Screen.Operation

namespace AdminConsole

/-! ## Errors of commands -/

/-- Why a command fails: the user has something to mend, or something outside went wrong. -/
inductive CommandError where
  | validation (message : String)
  | failure (message : String)
  deriving DecidableEq, Repr

namespace CommandError

def exitCode : CommandError → Nat
  | .validation _ => 2
  | .failure _ => 3

def message : CommandError → String
  | .validation m => m
  | .failure m => m

/-- The name under which the error is known where its message is not shown. -/
def label : String := "cli error"

/-- What to do about missing credentials. -/
def credentialsHint : String := "not authorized (pass --token or set HELMSMAN_TOKEN)"

/-- A refusal of the input is the user's to mend, any other failed call is not. -/
def ofApi (e : ApiError) : CommandError :=
  let text := Text.joinText "; " e.messages
  match e.status with
  | some status =>
    if status = 400 ∨ status = 409 ∨ status = 422 then .validation text
    else .failure (text ++ " (status " ++ toString status ++ ")")
  | none => .failure e.toText

/-- The error of a command whose session or list failed. -/
def ofConsole : ConsoleError → CommandError
  | .unauthorized e => .failure (credentialsHint ++ ": " ++ e.toText)
  | .api e => ofApi e
  | .query e => .validation e.message
  | .config e => .validation e.message

end CommandError

/-! ## Commands -/

namespace Command

/-- What came of a command. -/
structure Result where
  reports : List Report
  error : Option CommandError

namespace Result

def ok (r : Report) : Result := ⟨[r], none⟩

def failed (e : CommandError) : Result := ⟨[], some e⟩

def exitCode (r : Result) : Nat :=
  match r.error with
  | none => 0
  | some e => e.exitCode

/-- What is printed of a command, each text on a line of its own. -/
def printed (r : Result) (format : OutputFormat) : List String :=
  r.reports.flatMap fun report => report.printed format

end Result

def callError (e : ApiError) : CommandError := .ofConsole (.ofApi e)

variable {m : Type → Type} [Monad m]

/-- A service that does not depend on the phase of a screen. -/
def anyPhase (service : Service m) (_ : Phase) : Service m := service

/-! ## Listing -/

def pageReport (s : Screen) : Report :=
  .listing s.kind s.page.rows s.page.count (Query.currentPage s.params)

/-- What came of a listing; rows that outlive a failure are shown in front of it. -/
def listResult (s : Screen) : Result :=
  match s.error? with
  | none => .ok (pageReport s)
  | some e => ⟨if s.page.rows.isEmpty then [] else [pageReport s], some (callError e)⟩

def list (service : Service m) (pageSize : Nat) (a : ListArgs) : m Result := do
  let s := Screen.ofKind a.kind pageSize
  let (s, _) ← s.navigate (anyPhase service) (a.location s.scope)
  pure (listResult s)

/-! ## Looking at one thing -/

/-- The error of a failed look at a resource; one that is not there is the user's to mend. -/
def inspectError (kind : Kind) (id : ResourceId) (e : ApiError) : CommandError :=
  if e.isNotFound then .validation (kind.name ++ " " ++ toString id ++ " not found")
  else callError e

def inspect (service : Service m) (kind : Kind) (id : ResourceId) : m Result := do
  match ← service.carryOut (.call (.read kind id)) with
  | .ok i => pure (.ok (.item i))
  | .error e => pure (.failed (inspectError kind id e))

def schema (service : Service m) (kind : Kind) : m Result := do
  match ← service.carryOut (.call (.schema kind)) with
  | .ok s => pure (.ok (.schema kind s))
  | .error e => pure (.failed (callError e))

def whoami (service : Service m) : m Result := do
  match Session.ofResult (← service.carryOut Session.load) with
  | .ok s => pure (.ok (.session s))
  | .error e => pure (.failed (.ofConsole e))

/-! ## Removing -/

namespace RemoveArgs

/-- The resources to remove, each of them once. -/
def requested (a : RemoveArgs) : List ResourceId := distinctIds a.ids

/-- Where the resources are listed: on their own, or under the parent. -/
def endpoint (a : RemoveArgs) : Endpoint :=
  match a.parent with
  | some p => .related p.kind p.id a.kind.name
  | none => .collection a.kind

/-- What is to be done to the resources. -/
def action (a : RemoveArgs) : RemovalAction :=
  if a.parent.isSome then .disassociate else .delete

def screen (a : RemoveArgs) (pageSize : Nat) : Screen := .ofEndpoint a.kind pageSize a.endpoint

/-- The report of a removal in which nothing has been done yet. -/
def removal (a : RemoveArgs) (referrers : Except ApiError (List RelatedCount)) : Removal :=
  ⟨a.kind, a.action, a.confirmed, a.requested, [], [], referrers⟩

end RemoveArgs

def missingIds (s : Screen) (ids : List ResourceId) : List ResourceId :=
  ids.filter fun id => !s.selection.items.any fun i => i.id == id

def missingError (kind : Kind) (ids : List ResourceId) : CommandError :=
  .validation (kind.name ++ " not found: " ++ joinIds ", " ids)

def forbiddenError (kind : Kind) (ids : List ResourceId) : CommandError :=
  .validation ("not permitted to delete " ++ kind.name ++ ": " ++ joinIds ", " ids)

/-- The error for more resources than one page can hold. -/
def tooManyError : CommandError := .validation "too many identifiers in one removal"

def unconfirmedError : CommandError := .validation "refusing to proceed without --yes"

/-- What stands against a removal whose resources were to be brought into view. -/
def objection? (a : RemoveArgs) (s : Screen) : Option CommandError :=
  match s.error?, missingIds s a.requested with
  | some e, _ => some (callError e)
  | none, [] =>
    match a.parent, (Batch.undeletable s.selection.items).map Item.id with
    | none, [] => none
    | none, ids => some (forbiddenError a.kind ids)
    | some _, _ => none
  | none, ids => some (missingError a.kind ids)

/-- What refers to the selected resources; nothing is looked up under a parent. -/
def referrersOf (service : Service m) (a : RemoveArgs) (s : Screen) :
    m (Except ApiError (List RelatedCount)) := do
  match a.parent with
  | some _ => pure (.ok [])
  | none => return (← s.details (anyPhase service)).map fun found => found.getD []

/-- The removal that a batch has settled. -/
def Removal.settled (r : Removal) (outcome : Batch.Outcome ResourceId) : Removal :=
  match outcome.result with
  | .ok ids => { r with succeeded := ids }
  | .error e => { r with succeeded := e.succeeded, failures := e.failures }

/-- The error of a batch in which something failed. -/
def batchError? (outcome : Batch.Outcome ResourceId) : Option CommandError :=
  match outcome.result with
  | .ok _ => none
  | .error e => some (.failure e.toText)

/-- Do to the selected rows what is to be done. -/
def act (service : Service m) (a : RemoveArgs) (s : Screen) : m (Batch.Outcome ResourceId) := do
  match a.action with
  | .delete => return (← s.delete (anyPhase service)).2
  | .disassociate => return (← s.disassociate (anyPhase service)).2

def removeInView (service : Service m) (a : RemoveArgs) (s : Screen) : m Result := do
  let s := { s with selection := s.selection.selectAll true }
  let removal := a.removal (← referrersOf service a s)
  if a.confirmed then
    let outcome ← act service a s
    pure ⟨[.removal (removal.settled outcome)], batchError? outcome⟩
  else pure ⟨[.removal removal], some unconfirmedError⟩

/-- Whether the resources fit on one page, whose size has 32 bits. -/
def RemoveArgs.fitsOnePage (a : RemoveArgs) : Bool := a.requested.length ≤ Text.maxNat32.toNat

/-- Bring the resources into view and remove them. -/
def removeFrom (service : Service m) (a : RemoveArgs) (s : Screen) : m Result := do
  let (s, _) ← s.navigate (anyPhase service) (locationOfIds s.scope a.requested)
  match objection? a s with
  | some e => pure (.failed e)
  | none => removeInView service a s

def remove (service : Service m) (pageSize : Nat) (a : RemoveArgs) : m Result :=
  if a.fitsOnePage then removeFrom service a (a.screen pageSize) else pure (.failed tooManyError)

/-! ## Tasks -/

def Task.run (service : Service m) (pageSize : Nat) : Task → m Result
  | .list a => Command.list service pageSize a
  | .inspect kind id => Command.inspect service kind id
  | .schema kind => Command.schema service kind
  | .remove a => Command.remove service pageSize a
  | .whoami => Command.whoami service

/-- Carry a command line out on the service to which its settings lead, unless they are refused. -/
def Line.run (serviceOf : Http.Client → Service m) (l : Line) : m Result :=
  match Http.Client.ofConfig l.config with
  | .ok client => l.task.run (serviceOf client) l.defaultPageSize
  | .error e => pure (.failed (.ofConsole (.config e)))

end Command

end AdminConsole
