/-
# `Query.Scope` — the scope of one list in a search string that several lists share

A key is the namespace of the list that owns it, a dot and a field name, and the
first dot is the one that separates the two.  A scope is the namespace of a
list's keys, the values that hold when the string is silent, and the fields that
are read as integers.
-/
import AdminConsole.Query.Value
import AdminConsole.Text.Pieces

namespace AdminConsole.Query

/-! ## Keys -/

/-- A field of the list that owns a namespace. -/
structure Key where
  owner : String
  field : String
  deriving DecidableEq, Repr

namespace Key

/-- Split a key at its first dot; both sides must hold something. -/
def ofChars? (cs : List Char) : Option Key :=
  match Text.splitFirst '.' cs with
  | some (owner, field) =>
    if owner.isEmpty || field.isEmpty then none
    else some ⟨String.ofList owner, String.ofList field⟩
  | none => none

def parse? (s : String) : Option Key := ofChars? s.toList

def toText (k : Key) : String := k.owner ++ "." ++ k.field

end Key

/-! ## Scopes -/

/-- The field with the number of the page, counted from one. -/
def pageField : String := "page"
/-- The field with the number of rows on a page. -/
def pageSizeField : String := "page_size"
/-- The field with the sort key, preceded by `-` when descending. -/
def orderField : String := "order_by"

/-- Why a namespace cannot be used. -/
inductive ScopeError where
  | missingNamespace
  | dottedNamespace (owner : String)
  deriving DecidableEq, Repr

def ScopeError.message : ScopeError → String
  | .missingNamespace => "a query-string namespace is required"
  | .dottedNamespace owner => "query-string namespace '" ++ owner ++ "' must not contain '.'"

/-- The part of the search string that belongs to one list. -/
structure Scope where
  owner : String
  defaults : Params
  integerFields : List String
  owner_ok : Text.isAllBlank owner = false ∧ owner.toList.contains '.' = false
  deriving DecidableEq

namespace Scope

/-- A scope in which `page` and `page_size` are integers. -/
def make (owner : String) (defaults : Params) : Except ScopeError Scope :=
  if blank : Text.isAllBlank owner = true then .error .missingNamespace
  else if dotted : owner.toList.contains '.' = true then .error (.dottedNamespace owner)
  else .ok ⟨owner, defaults, [pageField, pageSizeField], by simpa using blank, by simpa using dotted⟩

/-- The same scope with other integer fields. -/
def withIntegerFields (scope : Scope) (fields : List String) : Scope :=
  { scope with integerFields := fields }

def isInteger (scope : Scope) (field : String) : Bool := scope.integerFields.contains field

def key (scope : Scope) (field : String) : Key := ⟨scope.owner, field⟩

def owns (scope : Scope) (k : Key) : Bool := k.owner == scope.owner

/-- Whether a value is written like the default of its field. -/
def isDefault (scope : Scope) (field : String) (v : Value) : Bool :=
  match scope.defaults.get? field with
  | some d => d.encode == v.encode
  | none => false

end Scope

end AdminConsole.Query
