/-
# `Search.Lookup` — the lookups with which a field may be compared

And which of them suit which type of field.
-/

namespace AdminConsole.Search

/-- A way to compare a field with the value of a filter. -/
inductive Lookup where
  | exact
  | iexact
  | contains
  | icontains
  | startswith
  | istartswith
  | endswith
  | iendswith
  | regex
  | iregex
  | gt
  | gte
  | lt
  | lte
  | isnull
  | among
  deriving DecidableEq, Repr

namespace Lookup

def all : List Lookup :=
  [exact, iexact, contains, icontains, startswith, istartswith, endswith, iendswith,
   regex, iregex, gt, gte, lt, lte, isnull, among]

/-- The name of a lookup inside a filter key. -/
def name : Lookup → String
  | exact => "exact"
  | iexact => "iexact"
  | contains => "contains"
  | icontains => "icontains"
  | startswith => "startswith"
  | istartswith => "istartswith"
  | endswith => "endswith"
  | iendswith => "iendswith"
  | regex => "regex"
  | iregex => "iregex"
  | gt => "gt"
  | gte => "gte"
  | lt => "lt"
  | lte => "lte"
  | isnull => "isnull"
  | among => "in"

def ofName? (s : String) : Option Lookup := all.find? fun l => l.name == s

/-- The wording for a name that no lookup has. -/
def unknownMessage (s : String) : String := "unknown lookup type '" ++ s ++ "'"

/-- Whether a lookup suits fields of a type: ignoring case and searching inside is for strings, ends
of texts are not compared on datetimes, and json has no order. -/
def suits (fieldType : String) : Lookup → Bool
  | iexact | contains | icontains => fieldType == "string"
  | startswith | istartswith | endswith | iendswith => fieldType != "datetime"
  | gt | gte | lt | lte => fieldType != "json"
  | exact | regex | iregex | isnull | among => true

/-- The lookups offered for a type of field, in the order of the picker. -/
def offered (fieldType : String) : List Lookup := all.filter (suits fieldType)

end Lookup

end AdminConsole.Search
