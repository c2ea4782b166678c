/-
# `Api.Plan` — what is to be called, in which order, and what is made of the replies

Two plans side by side start in their order and are both on their way until one
fails, which ends the whole; a plan that comes after another starts when that
one has succeeded.  In a long list a failure counts only when all plans in front
of it have succeeded.
-/
import AdminConsole.Api.Call
import AdminConsole.Api.Error

namespace AdminConsole

open Query (Params)

/-- What is to be called to get a value. -/
inductive Plan : Type → Type 1 where
  /-- Nothing, the value is there. -/
  | done {α : Type} (a : α) : Plan α
  /-- Nothing, it has failed. -/
  | fail {α : Type} (e : ApiError) : Plan α
  /-- One call. -/
  | call {α : Type} (c : Call α) : Plan α
  /-- A plan whose failure is a value too. -/
  | attempt {α : Type} (p : Plan α) : Plan (Except ApiError α)
  /-- Two plans side by side, which take turns in being asked first. -/
  | both {α β : Type} (p : Plan α) (q : Plan β) : Plan (α × β)
  /-- A plan beside those of a list, always asked in their order. -/
  | beside {α : Type} (p : Plan α) (ps : Plan (List α)) : Plan (List α)
  /-- A plan beside those of a list, whose outcomes count in their order: nothing ends the later ones
  before the earlier ones have come to an end. -/
  | inTurn {α : Type} (p : Plan α) (ps : Plan (List α)) : Plan (List α)
  /-- A plan that depends on the value of another. -/
  | andThen {α β : Type} (p : Plan α) (k : α → Plan β) : Plan β

namespace Plan

variable {α β : Type}

def map (f : α → β) (p : Plan α) : Plan β := p.andThen fun a => .done (f a)

/-- How many plans a short list has at most. -/
def shortLength : Nat := 30

/-- All plans of a short list side by side. -/
def allBeside : List (Plan α) → Plan (List α)
  | [] => .done []
  | p :: ps => .beside p (allBeside ps)

/-- All plans of a long list side by side. -/
def allInTurn : List (Plan α) → Plan (List α)
  | [] => .done []
  | p :: ps => .inTurn p (allInTurn ps)

def all (ps : List (Plan α)) : Plan (List α) :=
  if ps.length ≤ shortLength then allBeside ps else allInTurn ps

/-- A decoded value, or the failure of an answer that does not have the expected form. -/
def ofDecoded (method url : String) : Json.Decoded α → Plan α
  | .ok a => .done a
  | .error e => .fail (.malformed method url e)

/-! ## Carrying out -/

/-- The values of two plans, or the first failure. -/
def pairUp : Except ApiError α → Except ApiError β → Except ApiError (α × β)
  | .ok a, .ok b => .ok (a, b)
  | .error e, _ => .error e
  | .ok _, .error e => .error e

/-- A value in front of those of a list, or the first failure. -/
def prependTo : Except ApiError α → Except ApiError (List α) → Except ApiError (List α)
  | .ok a, .ok as => .ok (a :: as)
  | .error e, _ => .error e
  | .ok _, .error e => .error e

/-- Carry a plan out by asking for one reply after another.  Every call of plans side by side is
asked for, also when an earlier one has failed. -/
def run {m : Type → Type} [Monad m] (ask : {γ : Type} → Call γ → m (Except ApiError γ)) :
    {α : Type} → Plan α → m (Except ApiError α)
  | _, .done a => pure (.ok a)
  | _, .fail e => pure (.error e)
  | _, .call c => ask c
  | _, .attempt p => do
    let r ← run ask p
    pure (.ok r)
  | _, .both p q => do
    let r ← run ask p
    let s ← run ask q
    pure (pairUp r s)
  | _, .beside p ps => do
    let r ← run ask p
    let s ← run ask ps
    pure (prependTo r s)
  | _, .inTurn p ps => do
    let r ← run ask p
    let s ← run ask ps
    pure (prependTo r s)
  | _, .andThen p k => do
    match ← run ask p with
    | .ok a => run ask (k a)
    | .error e => pure (.error e)

/-! ## Facts about the server and the user -/

def configEndpoint : Endpoint := .named "config"
def meEndpoint : Endpoint := .named "me"

def serverConfig : Plan ServerConfig :=
  (Plan.call (.fetch configEndpoint Dict.empty)).andThen fun j =>
    ofDecoded "GET" configEndpoint.path (ServerConfig.decode j)

def firstUser (l : Listing Me) : Plan Me :=
  match l.results with
  | m :: _ => .done m
  | [] => .fail (.transport "GET" meEndpoint.path "current user missing from response")

def currentUser : Plan Me :=
  (Plan.call (.fetch meEndpoint Dict.empty)).andThen fun j =>
    (ofDecoded "GET" meEndpoint.path (Listing.decode Me.decode j)).andThen firstUser

end Plan

end AdminConsole
