/-
# `Json.Value` — JSON values

The members of an object that was read are in the order of their names, and a
name occurs once.  An object that is only written keeps the order in which it
was put together.
-/
import AdminConsole.Dict
import AdminConsole.Json.Number

namespace AdminConsole

inductive Json where
  | null
  | bool (value : Bool)
  | number (value : Json.Number)
  | string (value : String)
  | array (items : List Json)
  | object (members : List (String × Json))
  deriving Inhabited

namespace Json

def int (n : Int) : Json := .number (.int n)

def stringOrNull : Option String → Json
  | some s => .string s
  | none => .null

def strings (ss : List String) : Json := .array (ss.map .string)

/-- An object with its members in the order of their names. -/
def sorted (members : List (String × Json)) : Json := .object (Entries.sort members)

def ofDict (d : Dict Json) : Json := .object d.entries

def members : Json → List (String × Json)
  | .object ms => ms
  | _ => []

def member? (j : Json) (name : String) : Option Json := Entries.get? name j.members

/-- A member that is given only when there is a value. -/
def optional (name : String) : Option Json → List (String × Json)
  | some j => [(name, j)]
  | none => []

end Json

end AdminConsole
