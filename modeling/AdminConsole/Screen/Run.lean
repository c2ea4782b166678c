/-
# `Screen.Run` — runs of a screen over a service kept in memory

An operation of the screen goes on until it ends; whenever it cannot go on,
those who watch the screen see its phase, and then the call held longest is
released.

A fetch or a batch may also be launched and then resumed step by step, or be
given up on the way, which leaves what it has done so far.  It has the screen
for itself: no other operation begins before it ends.  Besides, fetches may be
begun by hand: they share the screen's state and go on only when they are
polled, also while an operation is under way and after the screen has been
closed.
-/
import AdminConsole.Screen.Operation

namespace AdminConsole.Screen

/-! ## The service -/

/-- A service kept in memory, and the phases that were seen when nothing could go on. -/
structure World where
  memory : Memory
  phases : List Phase

/-- Carry a plan out, releasing calls as long as it cannot go on. -/
def World.perform {α : Type} (phase : Phase) (p : Plan α) (w : World) :
    Except ApiError α × World :=
  let (waits, reply, memory) := Flight.carryOut p w.memory
  (reply, ⟨memory, w.phases ++ List.replicate waits phase⟩)

/-- The service kept in memory, as the screen sees it. -/
def memoryService (phase : Phase) : Service (StateM World) := ⟨fun p w => World.perform phase p w⟩

/-! ## Runs -/

/-- A fetch that was begun by hand. -/
structure Begun where
  id : String
  generation : Nat
  flight : Flight Page

/-- A batch that has been started: its generation, its resources, and what its follow-up depends on. -/
structure Charge where
  generation : Nat
  ids : List ResourceId
  allSelected : Bool
  search : String

/-- What an operation under way is waiting for. -/
inductive Work where
  /-- A page; if it is fetched after a batch, the outcome of the batch is kept. -/
  | fetching (generation : Nat) (flight : Flight Page) (batch : Option (Batch.Outcome ResourceId))
  /-- The resources of a batch. -/
  | batching (charge : Charge) (flight : Flight (List (Batch.ItemOutcome ResourceId)))

/-- Who has the screen. -/
inductive Standing where
  | free
  | busy (work : Work)
  | closed

structure Run where
  screen : Screen
  standing : Standing
  begun : List Begun
  memory : Memory

/-- An operation that can be taken step by step.  What refers to a row is not looked up in this way,
since that changes nothing of the screen. -/
inductive Task where
  | navigate (search : String)
  | fetch
  | edit (e : Search.Edit)
  | delete
  | disassociate

/-- What may happen in a run. -/
inductive Event where
  | navigate (search : String)
  | fetch
  | edit (e : Search.Edit)
  | delete
  | disassociate
  | details
  | select (item : Item)
  | selectRow (index : Nat)
  | selectAll (on : Bool)
  | setSelected (items : List Item)
  | clearSelected
  | dismiss
  | clearDeletionError
  | extend (more : Memory)
  | begin (id : String)
  | poll (id : String)
  | drop (id : String)
  | release
  | cancel
  | close
  | launch (task : Task)
  | resume
  | giveUp

/-- What a step answers. -/
inductive Answer where
  | nothing
  | settled (how : Settlement)
  | pending
  | noSuchCall
  | noSuchRow
  | released (any : Bool)
  | batch (outcome : Batch.Outcome ResourceId)
  | details (found : Except ApiError (Option (List RelatedCount)))

/-- What can be seen of a step: its answer, the phases seen on the way, and whether it has written
the location. -/
structure Seen where
  answer : Answer
  phases : List Phase
  moved : Bool

namespace Seen

/-- A step on which nothing was seen but its answer. -/
def only (a : Answer) : Seen := ⟨a, [], false⟩

end Seen

namespace Run

/-- A screen and a service on which nothing has happened yet. -/
def initial (screen : Screen) (memory : Memory) : Run := ⟨screen, .free, [], memory⟩

/-- Whether the screen is open for an operation: it is not closed, and none is under way. -/
def isOpen (run : Run) : Bool :=
  match run.standing with
  | .free => true
  | _ => false

def withScreen (run : Run) (screen : Screen) : Run := { run with screen }

/-- Run an operation of the screen to its end. -/
def operate {β : Type} (run : Run) (op : StateM World (Screen × β)) : Run × β × List Phase :=
  let ((screen, b), world) := op ⟨run.memory, []⟩
  ({ run with screen, memory := world.memory }, b, world.phases)

/-- Run an operation that ends in a settlement. -/
def settling (run : Run) (moved : Bool) (op : StateM World (Screen × Settlement)) : Run × Seen :=
  let (run, how, phases) := run.operate op
  (run, ⟨.settled how, phases, moved⟩)

/-- Whether the list moves after a batch. -/
def movesAfter (outcome : Batch.Outcome ResourceId) : Bool :=
  match outcome.followUp with
  | .navigate _ => true
  | _ => false

def batching (run : Run) (op : StateM World (Screen × Batch.Outcome ResourceId)) : Run × Seen :=
  let (run, outcome, phases) := run.operate op
  (run, ⟨.batch outcome, phases, movesAfter outcome⟩)

/-- Look up what refers to the selected row. -/
def lookUp (run : Run) : Run × Seen :=
  let (found, world) := run.screen.details memoryService ⟨run.memory, []⟩
  ({ run with memory := world.memory }, ⟨.details found, world.phases, false⟩)

def selecting (run : Run) (f : Selection Item → Selection Item) : Run × Seen :=
  (run.withScreen { run.screen with selection := f run.screen.selection }, .only .nothing)

/-! ### Fetches begun by hand -/

def find? (run : Run) (id : String) : Option Begun := run.begun.find? fun b => b.id == id

def others (run : Run) (id : String) : List Begun := run.begun.filter fun b => b.id != id

/-- A flight has moved on: settle the state if it has ended, else keep it. -/
def advance (run : Run) (id : String) (generation : Nat) (flight : Flight Page) : Run × Seen :=
  match flight.outcome? with
  | some reply =>
    let (how, change) := run.screen.fetch.settle generation reply
    ({ run with screen := { run.screen with fetch := change.state }, begun := run.others id },
      .only (.settled how))
  | none =>
    ({ run with begun := run.others id ++ [⟨id, generation, flight⟩] }, .only .pending)

/-- Begin a fetch and poll it once. -/
def beginFetch (run : Run) (id : String) : Run × Seen :=
  let screen := run.screen.startFetch
  let (flight, memory) := Flight.launch screen.pagePlan run.memory
  { run with screen, memory }.advance id screen.fetch.generation flight

/-- Poll a fetch; one that has been overtaken ends without asking the service. -/
def pollFetch (run : Run) (b : Begun) : Run × Seen :=
  if run.screen.fetch.isNewest b.generation then
    let (flight, memory) := b.flight.poll run.memory
    { run with memory }.advance b.id b.generation flight
  else ({ run with begun := run.others b.id }, .only (.settled .superseded))

def dropFetch (run : Run) (b : Begun) : Run × Seen :=
  let change := run.screen.fetch.abandon b.generation
  ({ run with screen := { run.screen with fetch := change.state }, begun := run.others b.id },
    .only .nothing)

/-! ### Operations under way -/

/-- What comes of an operation that goes on: the run and what was seen, whether a fetch of the screen
has started, and how one has ended. -/
structure Progress where
  run : Run
  seen : Seen
  started : Bool
  ended : Option Settlement

def await (run : Run) (work : Work) : Progress :=
  ⟨{ run with standing := .busy work }, .only .pending, false, none⟩

def finish (run : Run) (answer : Answer) (ended : Option Settlement) : Progress :=
  ⟨{ run with standing := .free }, .only answer, false, ended⟩

/-- The fetch of an operation ends, and the operation with it; after a batch nothing is selected. -/
def endFetch (run : Run) (batch : Option (Batch.Outcome ResourceId)) (how : Settlement) : Progress :=
  let ended := if how = .superseded then none else some how
  match batch with
  | none => (run.withScreen run.screen.showRows).finish (.settled how) ended
  | some outcome => (run.withScreen run.screen.showRows.unselected).finish (.batch outcome) ended

/-- The fetch of an operation has moved on. -/
def onFetch (run : Run) (generation : Nat) (flight : Flight Page)
    (batch : Option (Batch.Outcome ResourceId)) : Progress :=
  match flight.outcome? with
  | some reply =>
    let (how, change) := run.screen.fetch.settle generation reply
    (run.withScreen { run.screen with fetch := change.state }).endFetch batch how
  | none => run.await (.fetching generation flight batch)

/-- Fetch the page at the location. -/
def goFetch (run : Run) (batch : Option (Batch.Outcome ResourceId)) : Progress :=
  let screen := run.screen.startFetch
  let (flight, memory) := Flight.launch screen.pagePlan run.memory
  { { run with screen, memory }.onFetch screen.fetch.generation flight batch with started := true }

def goTo (run : Run) (search : String) (batch : Option (Batch.Outcome ResourceId)) : Progress :=
  let p := (run.withScreen (run.screen.moveTo search)).goFetch batch
  { p with seen := { p.seen with moved := true } }

/-- Do what follows a batch. -/
def goAfter (run : Run) (outcome : Batch.Outcome ResourceId) : Progress :=
  match outcome.followUp with
  | .navigate search => run.goTo search (some outcome)
  | .refetched => run.goFetch (some outcome)
  | .abandoned => (run.withScreen run.screen.unselected).finish (.batch outcome) none

def onBatch (run : Run) (charge : Charge) (flight : Flight (List (Batch.ItemOutcome ResourceId))) :
    Progress :=
  match flight.outcome? with
  | some reply =>
    let order : Batch.Order ResourceId :=
      ⟨outcomesOf charge.ids reply, charge.allSelected, charge.search⟩
    let (how, change) :=
      run.screen.deletion.settle charge.generation (Batch.check order.outcomes)
    (run.withScreen { run.screen with deletion := change.state }).goAfter
      ⟨Batch.resultOf how change.state, Batch.followUpOf run.screen.scope how order⟩
  | none => run.await (.batching charge flight)

def goBatch (run : Run) (call : ResourceId → Call Unit) : Progress :=
  let s := run.screen
  let screen := { s with deletion := s.deletion.start }
  let (flight, memory) := Flight.launch (fanOut call s.selectedIds) run.memory
  { run with screen, memory }.onBatch
    ⟨screen.deletion.generation, s.selectedIds, s.selection.isAllSelected, s.location⟩ flight

/-- Begin an operation. -/
def launch (run : Run) : Task → Progress
  | .navigate search => run.goTo search none
  | .fetch => run.goFetch none
  | .edit e => run.goTo (e.relocate run.screen.scope run.screen.location) none
  | .delete => run.goBatch fun id => .destroy run.screen.kind id
  | .disassociate => run.goBatch fun id => .associate run.screen.endpoint ⟨id, true⟩

/-- Let an operation go on; a fetch that has been overtaken ends without asking the service. -/
def resume (run : Run) : Work → Progress
  | .fetching generation flight batch =>
    if run.screen.fetch.isNewest generation then
      let (flight, memory) := flight.poll run.memory
      { run with memory }.onFetch generation flight batch
    else run.endFetch batch .superseded
  | .batching charge flight =>
    let (flight, memory) := flight.poll run.memory
    { run with memory }.onBatch charge flight

/-- The screen after an operation has been given up: its fetch or its batch ends without an answer. -/
def abandoned (run : Run) : Work → Screen
  | .fetching generation _ _ =>
    { run.screen with fetch := (run.screen.fetch.abandon generation).state }
  | .batching charge _ =>
    { run.screen with deletion := (run.screen.deletion.abandon charge.generation).state }

/-- What comes of an event that lets an operation go on. -/
def progress? (run : Run) : Event → Option Progress
  | .launch task => if run.isOpen then some (run.launch task) else none
  | .resume => match run.standing with
    | .busy work => some (run.resume work)
    | _ => none
  | _ => none

def releaseOne (run : Run) : Run × Seen :=
  match run.memory.release? with
  | some memory => ({ run with memory }, .only (.released true))
  | none => (run, .only (.released false))

/-! ### Steps -/

/-- One step on an open screen. -/
def screenStep (run : Run) : Event → Run × Seen
  | .navigate search => run.settling true (run.screen.navigate memoryService search)
  | .fetch => run.settling false (run.screen.load memoryService)
  | .edit e => run.settling true (run.screen.edit memoryService e)
  | .delete => run.batching (run.screen.delete memoryService)
  | .disassociate => run.batching (run.screen.disassociate memoryService)
  | .details => run.lookUp
  | .select item => run.selecting fun s => s.toggle item
  | .selectRow i => match run.screen.row? i with
    | some item => run.selecting fun s => s.toggle item
    | none => (run, .only .noSuchRow)
  | .selectAll on => run.selecting fun s => s.selectAll on
  | .setSelected items => run.selecting fun s => s.setSelected items
  | .clearSelected => run.selecting fun s => s.clear
  | .dismiss => (run.withScreen run.screen.dismiss, .only .nothing)
  | .clearDeletionError => (run.withScreen run.screen.clearDeletionError, .only .nothing)
  | .close => ({ run with screen := run.screen.close, standing := .closed }, .only .nothing)
  | _ => (run, .only .nothing)

/-- One step.  The service, the fetches begun by hand and their cancellation do without the screen, and
an operation under way has it already; all else needs it to be open. -/
def step (run : Run) : Event → Run × Seen
  | .extend more => ({ run with memory := run.memory.extend more }, .only .nothing)
  | .begin id => run.beginFetch id
  | .poll id => match run.find? id with
    | some b => run.pollFetch b
    | none => (run, .only .noSuchCall)
  | .drop id => match run.find? id with
    | some b => run.dropFetch b
    | none => (run, .only .nothing)
  | .release => run.releaseOne
  | .cancel =>
    (run.withScreen { run.screen with fetch := run.screen.fetch.cancel }, .only .nothing)
  | .launch task => match run.progress? (.launch task) with
    | some p => (p.run, p.seen)
    | none => (run, .only .nothing)
  | .resume => match run.progress? .resume with
    | some p => (p.run, p.seen)
    | none => (run, .only .noSuchCall)
  | .giveUp => match run.standing with
    | .busy work => ({ run with screen := run.abandoned work, standing := .free }, .only .nothing)
    | _ => (run, .only .nothing)
  | e => if run.isOpen then run.screenStep e else (run, .only .nothing)

def after (run : Run) (events : List Event) : Run := events.foldl (fun run e => (run.step e).1) run

end Run

end AdminConsole.Screen
