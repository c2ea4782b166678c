/-
# `Command.Location` — where a command goes in a list

Filters and options are edits of the toolbar, applied in one order to the query
that is given.  A removal asks for its resources by their numbers, all on one
page.
-/
import AdminConsole.Command.Line
import AdminConsole.Search.Edit

namespace AdminConsole.Command

open Query (Params Scope)
open Search (Edit Term)

/-! ## Edits in a row -/

/-- What edits make of the params, one after another. -/
def applyAll (scope : Scope) (params : Params) (edits : List Edit) : Params :=
  edits.foldl (Edit.apply scope) params

/-- What edits make of a search string; it is read before the first and written after the last. -/
def relocateAll (scope : Scope) (search : String) (edits : List Edit) : String :=
  Query.update scope search (applyAll scope (Query.parse scope search) edits)

/-! ## Listing -/

/-- A search for a value of a key as it is given. -/
def searchFor (negated : Bool) (key value : String) : Edit :=
  .search ⟨⟨false, negated, key, none⟩, value⟩

namespace ListArgs

/-- The edits that the arguments ask for. -/
def edits (a : ListArgs) : List Edit :=
  (a.filters.map fun f => searchFor false f.key f.value)
    ++ (a.excludes.map fun f => searchFor true f.key f.value)
    ++ (a.orderBy.toList.map fun key => .sort key a.descending)
    ++ a.pageSize.toList.map .pageSize
    ++ a.page.toList.map .page

def location (scope : Scope) (a : ListArgs) : String :=
  relocateAll scope (a.query.getD "") a.edits

end ListArgs

/-! ## Removing -/

/-- The key by which resources are asked for by their numbers. -/
def idsField : String := "id__in"

def joinIds (sep : String) (ids : List ResourceId) : String :=
  Text.joinText sep (ids.map toString)

/-- The location of a list that shows exactly some resources. -/
def locationOfIds (scope : Scope) (ids : List ResourceId) : String :=
  relocateAll scope "" [searchFor false idsField (joinIds "," ids), .pageSize ids.length]

/-- Put a number in its place among ascending ones, unless it is there. -/
def insertId (n : ResourceId) : List ResourceId → List ResourceId
  | [] => [n]
  | m :: r => if n < m then n :: m :: r else if n = m then m :: r else m :: insertId n r

/-- Numbers in ascending order, each of them once. -/
def distinctIds (ids : List ResourceId) : List ResourceId := ids.foldr insertId []

end AdminConsole.Command
