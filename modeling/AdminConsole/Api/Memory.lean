/-
# `Api.Memory` — a service kept in memory

It holds rows, fixed counts, schemas and documents, and refuses calls by rules.
It may hold calls of some methods back: such a call waits for its turn to be
released, the one held longest first, and is answered as things stand when it
goes on.
-/
import AdminConsole.Api.Call
import AdminConsole.Api.Error
import AdminConsole.Query.Location

namespace AdminConsole

open Query (Params)

/-- What a call carries beside its method and path. -/
inductive Argument where
  | none
  | query (pairs : List (String × String))
  | body (value : Json)

/-- A call as it is noted down. -/
structure CallRecord where
  method : String
  path : String
  argument : Argument

/-- A rule by which calls are refused, a number of times or always. -/
structure FailRule where
  method : String
  path : String
  uses : Option Nat
  failure : ApiError

/-- A service kept in memory. -/
structure Memory where
  rows : Dict (List Item)
  counts : Dict Nat
  schemas : Dict Schema
  documents : Dict Json
  holds : Dict Nat
  rules : List FailRule
  log : List CallRecord
  issued : Nat
  held : List Nat

def Call.argument {α : Type} (c : Call α) : Argument :=
  match c.params?, c.body? with
  | some params, _ => .query (Query.wirePairs params)
  | none, some body => .body body
  | none, none => .none

def Call.record {α : Type} (c : Call α) : CallRecord := ⟨c.method, c.endpoint.path, c.argument⟩

namespace FailRule

/-- Whether a rule can be used once more. -/
def hasUses (r : FailRule) : Bool := r.uses != some 0

/-- Whether a rule refuses calls with a method and path. -/
def applies (method path : String) (r : FailRule) : Bool :=
  r.method == method && r.path == path && r.hasUses

def use (r : FailRule) : FailRule := { r with uses := r.uses.map (· - 1) }

def refusal (r : FailRule) (method path : String) : ApiError :=
  { r.failure with method, url := path }

def useFirst (method path : String) : List FailRule → Option (ApiError × List FailRule)
  | [] => none
  | r :: rs =>
    if r.applies method path then some (r.refusal method path, r.use :: rs)
    else (useFirst method path rs).map fun (e, rs) => (e, r :: rs)

end FailRule

namespace Memory

def empty : Memory :=
  ⟨Dict.empty, Dict.empty, Dict.empty, Dict.empty, Dict.empty, [], [], 0, []⟩

instance : Inhabited Memory := ⟨empty⟩

/-- Take over what another service keeps: under one name the later counts, and its rules come last. -/
def extend (m more : Memory) : Memory :=
  { m with
    rows := m.rows.overlay more.rows
    counts := m.counts.overlay more.counts
    schemas := m.schemas.overlay more.schemas
    documents := m.documents.overlay more.documents
    holds := m.holds.overlay more.holds
    rules := m.rules ++ more.rules }

def rowsAt (m : Memory) (path : String) : List Item := (m.rows.get? path).getD []

def changeRows (m : Memory) (path : String) (f : List Item → List Item) : Memory :=
  match m.rows.get? path with
  | some rows => { m with rows := m.rows.insert path (f rows) }
  | none => m

/-- The rows of a list other than those of a number. -/
def withoutRow (id : ResourceId) (rows : List Item) : List Item := rows.filter fun i => i.id != id

/-! ## Listings -/

/-- The ids that a query asks for, if it asks for ids. -/
def requestedIds? (params : Params) : Option (List String) :=
  (params.get? "id__in").map fun v =>
    v.scalars.flatMap fun s => (Text.splitAll ',' s.toText.toList).map String.ofList

def matching (params : Params) (rows : List Item) : List Item :=
  match requestedIds? params with
  | some ids => rows.filter fun i => ids.contains (toString i.id)
  | none => rows

/-- The number of rows on a page, if there is a limit. -/
def pageSize? (params : Params) : Option Nat :=
  match (params.get? Query.pageSizeField).bind Query.Value.int? with
  | some n => if 0 < n then some n.toNat else none
  | none => none

/-- The rows of the page that a query asks for. -/
def window (params : Params) (rows : List Item) : List Item :=
  match pageSize? params with
  | some size => (rows.drop (((Query.currentPage params).toNat - 1) * size)).take size
  | none => if Query.currentPage params = 1 then rows else []

/-- The answer to a query at a path. -/
def listing (m : Memory) (path : String) (params : Params) : Listing Item :=
  match m.counts.get? path with
  | some n => ⟨n, none, none, []⟩
  | none =>
    let rows := matching params (m.rowsAt path)
    ⟨rows.length, none, none, window params rows⟩

/-! ## Answers -/

def notFound (method path : String) : ApiError := .ofStatus method path 404 none

def notOffered (method path : String) : ApiError := .ofStatus method path 405 none

/-- The answer to a call that no rule refuses. -/
def serve {α : Type} (m : Memory) : Call α → Except ApiError α × Memory
  | .list e params => (.ok (m.listing e.path params), m)
  | .read k id =>
    match (m.rowsAt (Endpoint.collection k).path).find? fun i => i.id == id with
    | some i => (.ok i, m)
    | none => (.error (notFound "GET" (Endpoint.detail k id).path), m)
  | .schema k => (.ok ((m.schemas.get? k.name).getD Schema.empty), m)
  | .create k _ => (.error (notOffered "POST" (Endpoint.collection k).path), m)
  | .update k id _ => (.error (notOffered "PATCH" (Endpoint.detail k id).path), m)
  | .destroy k id => (.ok (), m.changeRows (Endpoint.collection k).path (withoutRow id))
  | .associate e request =>
    (.ok (), if request.disassociate then m.changeRows e.path (withoutRow request.id) else m)
  | .fetch e _ =>
    match m.documents.get? e.path with
    | some j => (.ok j, m)
    | none => (.error (notFound "GET" e.path), m)

/-- The answer to a call as things stand. -/
def answer {α : Type} (m : Memory) (c : Call α) : Except ApiError α × Memory :=
  match FailRule.useFirst c.method c.endpoint.path m.rules with
  | some (e, rules) => (.error e, { m with rules })
  | none => m.serve c

/-! ## Holding calls back -/

/-- How many more calls of a method will be held back. -/
def holdsLeft (m : Memory) (method : String) : Nat := (m.holds.get? method).getD 0

def note (m : Memory) (r : CallRecord) : Memory := { m with log := m.log ++ [r] }

def hold (m : Memory) (method : String) : Nat × Memory :=
  (m.issued,
    { m with
      holds := m.holds.insert method (m.holdsLeft method - 1)
      issued := m.issued + 1
      held := m.held ++ [m.issued] })

/-- Let the call held longest go on; nothing if none is held. -/
def release? (m : Memory) : Option Memory :=
  match m.held with
  | [] => none
  | _ :: r => some { m with held := r }

def isHeld (m : Memory) (ticket : Nat) : Bool := m.held.contains ticket

/-- How many releases can be needed before nothing is held any more. -/
def patience (m : Memory) : Nat := m.held.length + m.holds.entries.foldr (fun e n => e.2 + n) 0

end Memory

end AdminConsole
