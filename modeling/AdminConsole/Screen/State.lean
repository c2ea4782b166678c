/-
# `Screen.State` — the screen of one list

Where it is, what was fetched there, which rows are selected and what became of
the last batch.  What the screen shows is derived from these, and so is its
phase.
-/
import AdminConsole.Api.Plan
import AdminConsole.Batch.Run
import AdminConsole.Search.Edit

namespace AdminConsole

open Query

/-! ## The scope of a list -/

namespace Kind

/-- The values that hold for a kind's list when the search string is silent. -/
def defaults (k : Kind) (pageSize : Nat) : Params :=
  Dict.ofList [(pageField, .one (.int 1)), (pageSizeField, .one (.int pageSize)),
    (orderField, .one (.text k.defaultOrder))]

/-- No kind has a blank or dotted namespace. -/
theorem owner_ok (k : Kind) :
    Text.isAllBlank k.owner = false ∧ k.owner.toList.contains '.' = false := by
  cases k <;> decide +kernel

def scope (k : Kind) (pageSize : Nat) : Scope :=
  ⟨k.owner, k.defaults pageSize, [pageField, pageSizeField], k.owner_ok⟩

end Kind

/-! ## The screen -/

/-- A page of rows, how many rows there are on all pages, and the schema of the collection. -/
structure Page where
  rows : List Item
  count : Nat
  schema : Schema

def Page.empty : Page := ⟨[], 0, Schema.empty⟩

instance : Inhabited Page := ⟨Page.empty⟩

/-- What a screen is doing, or what came of it. -/
inductive Phase where
  | idle
  | loading
  | ready
  | stale
  | deleting
  deriving DecidableEq, Repr

/-- The name of a phase; rows are stale when they outlive a fetch that failed. -/
def Phase.name : Phase → String
  | .idle => "Idle"
  | .loading => "Loading"
  | .ready => "Ready"
  | .stale => "ErrorWithStaleData"
  | .deleting => "Deleting"

/-- The screen of one list. -/
structure Screen where
  kind : Kind
  endpoint : Endpoint
  scope : Scope
  location : String
  fetch : Request Page ApiError
  deletion : Batch.State ResourceId
  selection : Selection Item

namespace Screen

/-- The screen of a kind's rows at an endpoint, before anything was fetched. -/
def ofEndpoint (k : Kind) (pageSize : Nat) (e : Endpoint) : Screen :=
  ⟨k, e, k.scope pageSize, "", .idle Page.empty, .idle [], Selection.empty⟩

def ofKind (k : Kind) (pageSize : Nat) : Screen := ofEndpoint k pageSize (.collection k)

/-- The query at the location. -/
def params (s : Screen) : Params := parse s.scope s.location

def page (s : Screen) : Page := s.fetch.result

/-- The failure of the last fetch, until it is dismissed. -/
def error? (s : Screen) : Option ApiError := s.fetch.error

/-- The failure of the last batch, until it is dismissed. -/
def deletionError? (s : Screen) : Option (Batch.DeletionError ResourceId) := s.deletion.error

/-- The phase: a batch comes before a fetch, and a fetch before what earlier ones left. -/
def phase (s : Screen) : Phase :=
  if s.deletion.isLoading then .deleting
  else if s.fetch.isLoading then .loading
  else if s.fetch.error.isSome then .stale
  else if s.fetch.generation = 0 then .idle
  else .ready

def moveTo (s : Screen) (search : String) : Screen := { s with location := search }

def showRows (s : Screen) : Screen := { s with selection := s.selection.setItems s.page.rows }

def unselected (s : Screen) : Screen := { s with selection := s.selection.clear }

def selectedIds (s : Screen) : List ResourceId := s.selection.keys

def undeletable (s : Screen) : List Item := Batch.undeletable s.selection.selected

def row? (s : Screen) (i : Nat) : Option Item := s.page.rows[i]?

def dismiss (s : Screen) : Screen := { s with fetch := s.fetch.dismiss.state }

def clearDeletionError (s : Screen) : Screen := { s with deletion := s.deletion.dismiss.state }

/-- Close the screen: nothing that is on its way may settle any more. -/
def close (s : Screen) : Screen :=
  { s with fetch := s.fetch.cancel, deletion := s.deletion.cancel }

/-- The page at the location: its rows and the schema, fetched side by side. -/
def pagePlan (s : Screen) : Plan Page :=
  (Plan.both (.call (.list s.endpoint s.params)) (.call (.schema s.kind))).map
    fun (listing, schema) => ⟨listing.results, listing.count, schema⟩

end Screen

end AdminConsole
