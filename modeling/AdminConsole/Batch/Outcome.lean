/-
# `Batch.Outcome` — the outcome of doing one thing to many resources

Which of them went well, which failed and why, and what a list should do next.
-/
import AdminConsole.Api.Error
import AdminConsole.Query.Location
import AdminConsole.Resource.Item

namespace AdminConsole.Batch

/-- What became of one resource. -/
structure ItemOutcome (κ : Type) where
  id : κ
  error : Option ApiError

/-- A resource for which the call failed. -/
structure ItemFailure (κ : Type) where
  id : κ
  error : ApiError

/-- A batch in which something failed: the failures and the successes, each in the order of the
batch. -/
structure DeletionError (κ : Type) where
  failures : List (ItemFailure κ)
  succeeded : List κ

/-- What the list does once a batch has settled. -/
inductive FollowUp where
  | navigate (search : String)
  | refetched
  | abandoned
  deriving DecidableEq, Repr

/-- How a batch ended. -/
structure Outcome (κ : Type) where
  result : Except (DeletionError κ) (List κ)
  followUp : FollowUp

variable {κ : Type}

def ItemOutcome.failure? (o : ItemOutcome κ) : Option (ItemFailure κ) :=
  o.error.map fun e => ⟨o.id, e⟩

def ItemOutcome.ofResult (id : κ) : Except ApiError Unit → ItemOutcome κ
  | .ok _ => ⟨id, none⟩
  | .error e => ⟨id, some e⟩

/-- The resources for which all went well, or the failures. -/
def check (outcomes : List (ItemOutcome κ)) : Except (DeletionError κ) (List κ) :=
  let failures := outcomes.filterMap ItemOutcome.failure?
  let succeeded := (outcomes.filter fun o => o.error.isNone).map ItemOutcome.id
  if failures.isEmpty then .ok succeeded else .error ⟨failures, succeeded⟩

namespace DeletionError

def failedIds (e : DeletionError κ) : List κ := e.failures.map ItemFailure.id

/-- The failure on one line. -/
def toText [ToString κ] (e : DeletionError κ) : String :=
  toString e.failures.length ++ " of " ++ toString (e.failures.length + e.succeeded.length)
    ++ " item(s) could not be processed:"
    ++ String.join (e.failures.map fun f => " [" ++ toString f.id ++ "] " ++ f.error.message ++ ";")

end DeletionError

/-- The rows that the user may not delete. -/
def undeletable (rows : List Item) : List Item := rows.filter fun i => !i.canDelete

/-- Where the list goes when its page has been emptied: one page back, unless it is the first. -/
def previousPage? (scope : Query.Scope) (allSelected : Bool) (search : String) : Option String :=
  let params := Query.parse scope search
  let page := Query.currentPage params
  if allSelected && 1 < page then
    some (Query.update scope search (params.insert Query.pageField (.one (.int (page - 1)))))
  else none

end AdminConsole.Batch
