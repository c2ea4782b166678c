/-
# `Request.State` — the state of something that is fetched again and again

Every start and every cancellation takes the next generation.  Only the call of
the newest generation may settle the state, so the answer to a call that has
been overtaken is never seen.

Each transition tells whether it notifies those who watch the state.
-/

namespace AdminConsole

/-- What is known of a fetched value. -/
structure Request (ρ ε : Type) where
  result : ρ
  isLoading : Bool
  error : Option ε
  generation : Nat
  deriving Repr

/-- How a call ended: its answer was taken, or its generation had passed. -/
inductive Settlement where
  | succeeded
  | failed
  | superseded
  deriving DecidableEq, Repr

/-- A state after a transition, and whether its watchers are notified. -/
structure Change (σ : Type) where
  state : σ
  notified : Bool

namespace Request

variable {ρ ε : Type}

/-- Nothing has been fetched yet. -/
def idle (result : ρ) : Request ρ ε := ⟨result, false, none, 0⟩

def start (r : Request ρ ε) : Request ρ ε :=
  { r with generation := r.generation + 1, isLoading := true }

/-- Whether calls of a generation may still settle the state. -/
def isNewest (r : Request ρ ε) (generation : Nat) : Bool := r.generation == generation

/-- The state that an answer leads to. -/
def accept (r : Request ρ ε) : Except ε ρ → Request ρ ε
  | .ok value => { r with isLoading := false, result := value, error := none }
  | .error e => { r with isLoading := false, error := some e }

/-- How a call whose answer is taken ends. -/
def outcomeOf : Except ε ρ → Settlement
  | .ok _ => .succeeded
  | .error _ => .failed

/-- A call of a generation is answered. -/
def settle (r : Request ρ ε) (generation : Nat) (reply : Except ε ρ) :
    Settlement × Change (Request ρ ε) :=
  if r.isNewest generation then (outcomeOf reply, ⟨r.accept reply, true⟩)
  else (.superseded, ⟨r, false⟩)

/-- A call of a generation is given up before it is answered. -/
def abandon (r : Request ρ ε) (generation : Nat) : Change (Request ρ ε) :=
  if r.isNewest generation && r.isLoading then ⟨{ r with isLoading := false }, true⟩ else ⟨r, false⟩

def setValue (r : Request ρ ε) (value : ρ) : Request ρ ε := { r with result := value }

def updateValue (r : Request ρ ε) (f : ρ → ρ) : Request ρ ε := { r with result := f r.result }

def dismiss (r : Request ρ ε) : Change (Request ρ ε) := ⟨{ r with error := none }, r.error.isSome⟩

/-- Overtake whatever is on its way. -/
def cancel (r : Request ρ ε) : Request ρ ε :=
  { r with generation := r.generation + 1, isLoading := false }

end Request

end AdminConsole
