/-
# `Resource.Listing` — what the service answers to calls on collections and on itself

Pages of a listing, the signed-in user, facts about the server, and the request
that attaches a resource to another.
-/
import AdminConsole.Resource.Item

namespace AdminConsole

open Json

/-- One page of a listing, and how many resources there are on all pages. -/
structure Listing (α : Type) where
  count : Nat
  next : Option String
  previous : Option String
  results : List α

namespace Listing

variable {α : Type}

def empty : Listing α := ⟨0, none, none, []⟩

instance : Inhabited (Listing α) := ⟨empty⟩

def fields (item : Json → Decoded α) : List Field :=
  [.of "count" decodeNat64, .of "next" (decodeOption decodeString),
   .of "previous" (decodeOption decodeString), .of "results" (decodeList item)]

def decode (item : Json → Decoded α) : Json → Decoded (Listing α) :=
  decodeRecord "ListResponse" (fields item) fun ms => do
    let count ← ms.required "count" decodeNat64
    let next ← ms.optional "next" decodeString
    let previous ← ms.optional "previous" decodeString
    let results ← ms.required "results" (decodeList item)
    pure ⟨count, next, previous, results⟩

def toJson (item : α → Json) (l : Listing α) : Json :=
  .object ([("count", Json.int l.count)]
    ++ Json.optional "next" (l.next.map .string)
    ++ Json.optional "previous" (l.previous.map .string)
    ++ [("results", .array (l.results.map item))])

end Listing

/-- The request that attaches a resource to a related collection, or detaches it. -/
structure Association where
  id : ResourceId
  disassociate : Bool
  deriving DecidableEq, Repr

namespace Association

def fields : List Field := [.of "id" decodeInt64, .of "disassociate" decodeBool]

def decode : Json → Decoded Association :=
  decodeRecord "AssociationRequest" fields fun ms => do
    let id ← ms.required "id" decodeInt64
    let disassociate ← ms.defaulted "disassociate" decodeBool false
    pure ⟨id, disassociate⟩

def toJson (a : Association) : Json :=
  .object ([("id", Json.int a.id)]
    ++ if a.disassociate then [("disassociate", .bool true)] else [])

end Association

structure ServerConfig where
  version : String
  extra : Dict Json

namespace ServerConfig

def fields : List Field := [.of "version" decodeString]

def decode : Json → Decoded ServerConfig :=
  decodeObject "ServerConfig" fields fun ms => do
    let version ← ms.defaulted "version" decodeString ""
    pure ⟨version, ms.rest fields⟩

def toJson (c : ServerConfig) : Json :=
  .object (("version", .string c.version) :: c.extra.entries)

end ServerConfig

/-- The signed-in user. -/
structure Me where
  id : ResourceId
  username : String
  isSuperuser : Bool
  isSystemAuditor : Bool
  deriving DecidableEq, Repr

namespace Me

def fields : List Field :=
  [.of "id" decodeInt64, .of "username" decodeString, .of "is_superuser" decodeBool,
   .of "is_system_auditor" decodeBool]

def decode : Json → Decoded Me :=
  decodeRecord "Me" fields fun ms => do
    let id ← ms.required "id" decodeInt64
    let username ← ms.defaulted "username" decodeString ""
    let isSuperuser ← ms.defaulted "is_superuser" decodeBool false
    let isSystemAuditor ← ms.defaulted "is_system_auditor" decodeBool false
    pure ⟨id, username, isSuperuser, isSystemAuditor⟩

def toJson (m : Me) : Json :=
  .object [("id", Json.int m.id), ("username", .string m.username),
    ("is_superuser", .bool m.isSuperuser), ("is_system_auditor", .bool m.isSystemAuditor)]

end Me

end AdminConsole
