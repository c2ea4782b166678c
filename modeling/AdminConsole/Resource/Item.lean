/-
# `Resource.Item` — resources as rows of a list

The console relies on a row's number, its name and on what the user may do with
it; every other attribute is passed through as it is.
-/
import AdminConsole.Json.Decode
import AdminConsole.Resource.Kind
import AdminConsole.Selection

namespace AdminConsole

open Json

/-- What the user may do with a resource. -/
structure Capabilities where
  edit : Bool := false
  delete : Bool := false
  copy : Bool := false
  deriving DecidableEq, Repr

/-- The summaries that come with a row. -/
structure Summary where
  capabilities : Option Capabilities
  extra : Dict Json

/-- A resource as a row of a list. -/
structure Item where
  id : ResourceId
  name : Option String
  type : Option String
  summary : Option Summary
  extra : Dict Json

namespace Capabilities

def fields : List Field :=
  [.of "edit" decodeBool, .of "delete" decodeBool, .of "copy" decodeBool]

/-- Read capabilities; what is not mentioned is not allowed. -/
def decode : Json → Decoded Capabilities :=
  decodeRecord "UserCapabilities" fields fun ms => do
    let edit ← ms.defaulted "edit" decodeBool false
    let delete ← ms.defaulted "delete" decodeBool false
    let copy ← ms.defaulted "copy" decodeBool false
    pure ⟨edit, delete, copy⟩

def toJson (c : Capabilities) : Json :=
  .object [("edit", .bool c.edit), ("delete", .bool c.delete), ("copy", .bool c.copy)]

end Capabilities

namespace Summary

def fields : List Field := [.of "user_capabilities" (decodeOption Capabilities.decode)]

def decode : Json → Decoded Summary :=
  decodeObject "SummaryFields" fields fun ms => do
    let capabilities ← ms.optional "user_capabilities" Capabilities.decode
    pure ⟨capabilities, ms.rest fields⟩

def toJson (s : Summary) : Json :=
  .object (Json.optional "user_capabilities" (s.capabilities.map Capabilities.toJson)
    ++ s.extra.entries)

end Summary

namespace Item

def fields : List Field :=
  [.of "id" decodeInt64, .of "name" (decodeOption decodeString),
   .of "type" (decodeOption decodeString), .of "summary_fields" (decodeOption Summary.decode)]

def decode : Json → Decoded Item :=
  decodeObject "Item" fields fun ms => do
    let id ← ms.required "id" decodeInt64
    let name ← ms.optional "name" decodeString
    let type ← ms.optional "type" decodeString
    let summary ← ms.optional "summary_fields" Summary.decode
    pure ⟨id, name, type, summary, ms.rest fields⟩

/-- Write a row: the known fields in their order, then the other attributes by name. -/
def toJson (i : Item) : Json :=
  .object ([("id", Json.int i.id)]
    ++ Json.optional "name" (i.name.map .string)
    ++ Json.optional "type" (i.type.map .string)
    ++ Json.optional "summary_fields" (i.summary.map Summary.toJson)
    ++ i.extra.entries)

/-- A row that has nothing but its number. -/
def bare (id : ResourceId) : Item := ⟨id, none, none, none, Dict.empty⟩

def isBare (i : Item) : Bool :=
  i.name.isNone && i.type.isNone && i.summary.isNone && i.extra.entries.isEmpty

instance : Keyed Item ResourceId := ⟨Item.id⟩

/-- Whether the user may delete the row; without a word on it, yes. -/
def canDelete (i : Item) : Bool :=
  match i.summary.bind Summary.capabilities with
  | some c => c.delete
  | none => true

/-- The name, or a word in its place. -/
def displayName (i : Item) : String := i.name.getD "<unnamed>"

end Item

end AdminConsole
