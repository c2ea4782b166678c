/-
# `Api.Flight` — plans on their way through a service kept in memory

A flight is what is left of a plan that has started: the calls that are held
back and what is to be made of their replies.  A poll moves a flight on as far
as the service lets it.  Of flights in turn a later one is blocked while an
earlier one is on its way: it moves on, but its failure ends nothing yet.

What carries plans out is a `Service`.  It may keep everything in memory, or ask
somebody else for one reply after another.
-/
import AdminConsole.Api.Memory
import AdminConsole.Api.Plan

namespace AdminConsole

/-- A plan that has started. -/
inductive Flight : Type → Type 1 where
  /-- It has come to an end. -/
  | landed {α : Type} (r : Except ApiError α) : Flight α
  /-- A call is held back. -/
  | waiting {α : Type} (ticket : Nat) (c : Call α) : Flight α
  /-- A flight whose failure is a value too. -/
  | attempt {α : Type} (f : Flight α) : Flight (Except ApiError α)
  /-- Two flights side by side, and whether the second is asked first next time. -/
  | both {α β : Type} (secondFirst : Bool) (f : Flight α) (g : Flight β) : Flight (α × β)
  /-- A flight beside those of a list. -/
  | beside {α : Type} (f : Flight α) (fs : Flight (List α)) : Flight (List α)
  /-- A flight beside those of a list, whose outcomes count in their order. -/
  | inTurn {α : Type} (f : Flight α) (fs : Flight (List α)) : Flight (List α)
  /-- A flight whose value decides what follows. -/
  | andThen {α β : Type} (f : Flight α) (k : α → Plan β) : Flight β

namespace Flight

variable {α β : Type}

/-- How a flight has ended, if it has. -/
def outcome? : Flight α → Option (Except ApiError α)
  | .landed r => some r
  | _ => none

def failure? (f : Flight α) : Option ApiError :=
  match f.outcome? with
  | some (.error e) => some e
  | _ => none

/-- The outcome of an attempt is a value. -/
def attempted (f : Flight α) : Flight (Except ApiError α) :=
  match f.outcome? with
  | some r => .landed (.ok r)
  | none => .attempt f

/-- Two flights neither of which has failed. -/
def pair (secondFirst : Bool) (f : Flight α) (g : Flight β) : Flight (α × β) :=
  match f.outcome?, g.outcome? with
  | some (.ok a), some (.ok b) => .landed (.ok (a, b))
  | some (.error e), _ => .landed (.error e)
  | _, some (.error e) => .landed (.error e)
  | _, _ => .both secondFirst f g

/-- A flight and those of a list, none of which has failed. -/
def prepend (f : Flight α) (fs : Flight (List α)) : Flight (List α) :=
  match f.outcome?, fs.outcome? with
  | some (.ok a), some (.ok as) => .landed (.ok (a :: as))
  | some (.error e), _ => .landed (.error e)
  | _, some (.error e) => .landed (.error e)
  | _, _ => .beside f fs

/-- Whether a flight keeps those behind it from counting: it has not succeeded. -/
def blocks (f : Flight α) : Bool :=
  match f.outcome? with
  | some (.ok _) => false
  | _ => true

/-- A flight and those behind it, unless the outcome of all counts. -/
def queue (blocked : Bool) (f : Flight α) (fs : Flight (List α)) : Flight (List α) :=
  match blocked, f.outcome?, fs.outcome? with
  | false, some (.ok a), some (.ok as) => .landed (.ok (a :: as))
  | false, some (.ok _), some (.error e) => .landed (.error e)
  | _, _, _ => .inTurn f fs

/-- Start one call: it is noted down, and answered unless it is held back. -/
def startCall (c : Call α) (m : Memory) : Flight α × Memory :=
  let m := m.note c.record
  if 0 < m.holdsLeft c.method then
    let (ticket, m) := m.hold c.method
    (.waiting ticket c, m)
  else
    let (r, m) := m.answer c
    (.landed r, m)

/-- Start a plan; `blocked` tells whether another one in front of it has to end first. -/
def start : {α : Type} → Bool → Plan α → Memory → Flight α × Memory
  | _, _, .done a, m => (.landed (.ok a), m)
  | _, _, .fail e, m => (.landed (.error e), m)
  | _, _, .call c, m => startCall c m
  | _, _, .attempt p, m =>
    let (f, m) := start false p m
    (f.attempted, m)
  | _, _, .both p q, m =>
    let (f, m) := start false p m
    match f.failure? with
    | some e => (.landed (.error e), m)
    | none =>
      let (g, m) := start false q m
      (pair true f g, m)
  | _, _, .beside p ps, m =>
    let (f, m) := start false p m
    match f.failure? with
    | some e => (.landed (.error e), m)
    | none =>
      let (fs, m) := start false ps m
      (prepend f fs, m)
  | _, blocked, .inTurn p ps, m =>
    let (f, m) := start false p m
    match blocked, f.failure? with
    | false, some e => (.landed (.error e), m)
    | _, _ =>
      let (fs, m) := start (blocked || f.blocks) ps m
      (queue blocked f fs, m)
  | _, _, .andThen p k, m =>
    let (f, m) := start false p m
    match f.outcome? with
    | some (.ok a) => start false (k a) m
    | some (.error e) => (.landed (.error e), m)
    | none => (.andThen f k, m)

/-- Start a plan that nothing blocks. -/
def launch (p : Plan α) (m : Memory) : Flight α × Memory := start false p m

/-- Move a flight on; `blocked` tells whether another one in front of it has to end first. -/
def advance : {α : Type} → Bool → Flight α → Memory → Flight α × Memory
  | _, _, .landed r, m => (.landed r, m)
  | _, _, .waiting ticket c, m =>
    if m.isHeld ticket then (.waiting ticket c, m)
    else
      let (r, m) := m.answer c
      (.landed r, m)
  | _, _, .attempt f, m =>
    let (f, m) := advance false f m
    (f.attempted, m)
  | _, _, .both false f g, m =>
    let (f, m) := advance false f m
    match f.failure? with
    | some e => (.landed (.error e), m)
    | none =>
      let (g, m) := advance false g m
      (pair true f g, m)
  | _, _, .both true f g, m =>
    let (g, m) := advance false g m
    match g.failure? with
    | some e => (.landed (.error e), m)
    | none =>
      let (f, m) := advance false f m
      (pair false f g, m)
  | _, _, .beside f fs, m =>
    let (f, m) := advance false f m
    match f.failure? with
    | some e => (.landed (.error e), m)
    | none =>
      let (fs, m) := advance false fs m
      (prepend f fs, m)
  | _, blocked, .inTurn f fs, m =>
    let (f, m) := advance false f m
    match blocked, f.failure? with
    | false, some e => (.landed (.error e), m)
    | _, _ =>
      let (fs, m) := advance (blocked || f.blocks) fs m
      (queue blocked f fs, m)
  | _, _, .andThen f k, m =>
    let (f, m) := advance false f m
    match f.outcome? with
    | some (.ok a) => start false (k a) m
    | some (.error e) => (.landed (.error e), m)
    | none => (.andThen f k, m)

/-- Move a flight on that nothing blocks. -/
def poll (f : Flight α) (m : Memory) : Flight α × Memory := advance false f m

/-- The failure of a flight that nothing can move any more. -/
def stranded : ApiError := .transport "" "" "the call was never answered"

/-- Bring a flight to its end by releasing calls, the one held longest first; also tell how often
nothing could go on.  The number bounds the releases. -/
def bringDown : Nat → Flight α → Memory → Nat × Except ApiError α × Memory
  | 0, f, m => (0, f.outcome?.getD (.error stranded), m)
  | fuel + 1, f, m =>
    match f.outcome? with
    | some r => (0, r, m)
    | none => match m.release? with
      | none => (1, .error stranded, m)
      | some m =>
        let (f, m) := poll f m
        let (waits, r, m) := bringDown fuel f m
        (waits + 1, r, m)

/-- Carry a plan out, and tell how often nothing could go on. -/
def carryOut (p : Plan α) (m : Memory) : Nat × Except ApiError α × Memory :=
  let (f, m) := launch p m
  bringDown (m.patience + 1) f m

end Flight

/-! ## Services -/

/-- What carries plans out, with the effects of `m`. -/
structure Service (m : Type → Type) where
  carryOut : {α : Type} → Plan α → m (Except ApiError α)

namespace Service

/-- The service that asks for one reply after another. -/
def asking {m : Type → Type} [Monad m] (ask : {γ : Type} → Call γ → m (Except ApiError γ)) :
    Service m :=
  ⟨fun p => p.run ask⟩

def carryOutIn {α : Type} (p : Plan α) (m : Memory) : Except ApiError α × Memory :=
  (Flight.carryOut p m).2

def inMemory : Service (StateM Memory) := ⟨fun p m => carryOutIn p m⟩

end Service

end AdminConsole
