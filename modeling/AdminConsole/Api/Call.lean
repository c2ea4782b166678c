/-
# `Api.Call` — the calls that can be made on the service

A call has the type of its reply in its own type.

Its params go as pairs on the wire.  A sequence repeats its key, which the
service reads as alternatives; only a membership test takes one value with
commas between the texts.
-/
import AdminConsole.Query.Value
import AdminConsole.Resource.Listing
import AdminConsole.Resource.Schema

namespace AdminConsole

open Query (Params)

/-- A call on the service; the index is the type of the reply. -/
inductive Call : Type → Type where
  | list (endpoint : Endpoint) (params : Params) : Call (Listing Item)
  | read (kind : Kind) (id : ResourceId) : Call Item
  | schema (kind : Kind) : Call Schema
  | create (kind : Kind) (body : Json) : Call Item
  | update (kind : Kind) (id : ResourceId) (body : Json) : Call Item
  | destroy (kind : Kind) (id : ResourceId) : Call Unit
  | associate (endpoint : Endpoint) (request : Association) : Call Unit
  | fetch (endpoint : Endpoint) (params : Params) : Call Json

namespace Call

variable {α : Type}

def method : Call α → String
  | .list .. => "GET"
  | .read .. => "GET"
  | .schema .. => "OPTIONS"
  | .create .. => "POST"
  | .update .. => "PATCH"
  | .destroy .. => "DELETE"
  | .associate .. => "POST"
  | .fetch .. => "GET"

def endpoint : Call α → Endpoint
  | .list e _ => e
  | .read k id => .detail k id
  | .schema k => .collection k
  | .create k _ => .collection k
  | .update k id _ => .detail k id
  | .destroy k id => .detail k id
  | .associate e _ => e
  | .fetch e _ => e

def params? : Call α → Option Params
  | .list _ params => some params
  | .fetch _ params => some params
  | _ => none

def body? : Call α → Option Json
  | .create _ body => some body
  | .update _ _ body => some body
  | .associate _ request => some request.toJson
  | _ => none

end Call

/-! ## Params on the wire -/

namespace Query

/-- The ending of keys that test for membership. -/
def membershipEnding : String := "__in"

def isMembership (key : String) : Bool := Text.endsWith membershipEnding.toList key.toList

/-- The pairs of one field. -/
def fieldPairs (key : String) : Value → List (String × String)
  | .one s => [(key, s.toText)]
  | .many [] => []
  | .many (s :: ss) =>
    if isMembership key then [(key, Text.joinText "," ((s :: ss).map Scalar.toText))]
    else (s :: ss).map fun t => (key, t.toText)

/-- The pairs of all fields, in the order of their keys. -/
def wirePairs (params : Params) : List (String × String) :=
  params.toList.flatMap fun e => fieldPairs e.1 e.2

end Query

end AdminConsole
