/-
# `Search.Edit` — the edits behind a list's toolbar

Every edit other than choosing a page goes back to the first page.
`Edit.relocate` applies an edit to the search string: read, edit, write.
-/
import AdminConsole.Query.Combine
import AdminConsole.Query.Location
import AdminConsole.Search.FilterKey

namespace AdminConsole.Search

open Query

/-- A search: a key and the value that it is compared with. -/
structure Term where
  key : FilterKey
  value : String
  deriving DecidableEq, Repr

/-- The param key that a term writes. -/
def Term.field (t : Term) : String := t.key.toText

def firstPage (scope : Scope) : Value := (scope.defaults.get? pageField).getD (.one (.int 1))

/-- Go back to the first page. -/
def resetPage (scope : Scope) (params : Params) : Params :=
  params.insert pageField (firstPage scope)

/-- The scalars that a search on a field adds to; a default counts as no scalars. -/
def searched (scope : Scope) (params : Params) (field : String) : List Scalar :=
  match params.get? field with
  | none => []
  | some v => if scope.defaults.get? field = some v then [] else v.scalars

/-- Add a value at the end unless it is there. -/
def addScalar (scalars : List Scalar) (s : Scalar) : List Scalar :=
  if s ∈ scalars then scalars else scalars ++ [s]

/-- Search; further values of one key add up. -/
def withSearch (scope : Scope) (params : Params) (t : Term) : Params :=
  let values := addScalar (searched scope params t.field) (.text t.value)
  resetPage scope (params.insert t.field (Value.ofParts values))

def withoutFilter (scope : Scope) (params : Params) (field value : String) : Params :=
  resetPage scope (removeField scope params field (.one (.text value)))

/-- Nothing but the defaults. -/
def cleared (scope : Scope) : Params := scope.defaults

def orderValue (key : String) (descending : Bool) : String :=
  if descending then "-" ++ key else key

def sortedBy (scope : Scope) (params : Params) (key : String) (descending : Bool) : Params :=
  resetPage scope (params.insert orderField (.one (.text (orderValue key descending))))

def currentSort (params : Params) : Option (String × Bool) :=
  match (params.get? orderField).bind Value.text? with
  | none => none
  | some order => match Text.stripStart? ['-'] order.toList with
    | some key => some (String.ofList key, true)
    | none => some (order, false)

/-- Go to a page; the first one is the least. -/
def withPage (params : Params) (page : Int) : Params :=
  params.insert pageField (.one (.int (max page 1)))

/-- Show another number of rows on a page, at least one. -/
def withPageSize (scope : Scope) (params : Params) (size : Nat) : Params :=
  resetPage scope (params.insert pageSizeField (.one (.int (max size 1))))

/-- The fields that are no filters. -/
def controlFields : List String := [pageField, pageSizeField, orderField]

/-- The filters in effect: every other field whose value is not its default, with its texts. -/
def activeFilters (scope : Scope) (params : Params) : List (FilterKey × List String) :=
  (params.toList.filter fun e =>
      !controlFields.contains e.1 && !decide (scope.defaults.get? e.1 = some e.2)).map fun e =>
    (FilterKey.parse e.1, e.2.scalars.map Scalar.toText)

/-! ## Edits as data -/

/-- An operation of the toolbar. -/
inductive Edit where
  | search (term : Term)
  | without (field value : String)
  | clear
  | sort (key : String) (descending : Bool)
  | page (page : Int)
  | pageSize (size : Nat)
  deriving DecidableEq, Repr

/-- What an edit makes of the params. -/
def Edit.apply (scope : Scope) (params : Params) : Edit → Params
  | .search t => withSearch scope params t
  | .without field value => withoutFilter scope params field value
  | .clear => cleared scope
  | .sort key descending => sortedBy scope params key descending
  | .page n => withPage params n
  | .pageSize size => withPageSize scope params size

/-- What an edit makes of the search string. -/
def Edit.relocate (scope : Scope) (search : String) (e : Edit) : String :=
  update scope search (e.apply scope (parse scope search))

end AdminConsole.Search
