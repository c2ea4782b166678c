/-
# `Resource.Schema` — the schema of a collection

Which fields its resources have for reading and for creating, and which of them
a list may be filtered by.  The service gives fields for creating only to users
who may create, so that they are there is the permission.
-/
import AdminConsole.Json.Decode

namespace AdminConsole

open Json

/-- What the service says about one field. -/
structure FieldSchema where
  type : Option String
  label : Option String
  filterable : Bool
  extra : Dict Json

/-- The fields for reading and those for creating. -/
structure Actions where
  get : Option (Dict FieldSchema)
  post : Option (Dict FieldSchema)

structure Schema where
  actions : Actions
  relatedSearchFields : List String

namespace FieldSchema

def fields : List Field :=
  [.of "type" (decodeOption decodeString), .of "label" (decodeOption decodeString),
   .of "filterable" decodeBool]

def decode : Json → Decoded FieldSchema :=
  decodeObject "FieldSchema" fields fun ms => do
    let type ← ms.optional "type" decodeString
    let label ← ms.optional "label" decodeString
    let filterable ← ms.defaulted "filterable" decodeBool false
    pure ⟨type, label, filterable, ms.rest fields⟩

def toJson (f : FieldSchema) : Json :=
  .object (Json.optional "type" (f.type.map .string)
    ++ Json.optional "label" (f.label.map .string)
    ++ ("filterable", .bool f.filterable) :: f.extra.entries)

end FieldSchema

namespace Actions

def empty : Actions := ⟨none, none⟩

def fields : List Field :=
  [.of "GET" (decodeOption (decodeDict FieldSchema.decode)),
   .of "POST" (decodeOption (decodeDict FieldSchema.decode))]

def decode : Json → Decoded Actions :=
  decodeRecord "Actions" fields fun ms => do
    let get ← ms.optional "GET" (decodeDict FieldSchema.decode)
    let post ← ms.optional "POST" (decodeDict FieldSchema.decode)
    pure ⟨get, post⟩

def tableJson (d : Dict FieldSchema) : Json :=
  .object (d.entries.map fun (name, f) => (name, f.toJson))

def toJson (a : Actions) : Json :=
  .object (Json.optional "GET" (a.get.map tableJson) ++ Json.optional "POST" (a.post.map tableJson))

end Actions

namespace Schema

def empty : Schema := ⟨Actions.empty, []⟩

instance : Inhabited Schema := ⟨empty⟩

def fields : List Field :=
  [.of "actions" Actions.decode, .of "related_search_fields" (decodeList decodeString)]

def decode : Json → Decoded Schema :=
  decodeRecord "OptionsResponse" fields fun ms => do
    let actions ← ms.defaulted "actions" Actions.decode Actions.empty
    let related ← ms.defaulted "related_search_fields" (decodeList decodeString) []
    pure ⟨actions, related⟩

def toJson (s : Schema) : Json :=
  .object [("actions", s.actions.toJson), ("related_search_fields", Json.strings s.relatedSearchFields)]

/-! ## What a toolbar offers -/

/-- Whether the user may create resources. -/
def canAdd (s : Schema) : Bool := s.actions.post.isSome

/-- The fields that a list may be filtered by, with their types. -/
def searchableKeys (s : Schema) : List (String × Option String) :=
  match s.actions.get with
  | some d => (d.entries.filter fun e => e.2.filterable).map fun e => (e.1, e.2.type)
  | none => []

/-- How many bytes the ending `__search` has. -/
def relatedEnding : Nat := 8

/-- The start of a text with exactly the given number of bytes, unless that cuts a character. -/
def takeBytes? : Nat → List Char → Option (List Char)
  | 0, _ => some []
  | _ + 1, [] => none
  | n + 1, c :: r =>
    if n + 1 < c.utf8Size then none else (takeBytes? (n + 1 - c.utf8Size) r).map (c :: ·)

/-- A related field without its ending of eight bytes; empty if that would cut a character. -/
def dropEnding (field : String) : String :=
  String.ofList ((takeBytes? (field.utf8ByteSize - relatedEnding) field.toList).getD [])

/-- The fields reached through relations, without their endings. -/
def relatedKeys (s : Schema) : List String := s.relatedSearchFields.map dropEnding

end Schema

end AdminConsole
