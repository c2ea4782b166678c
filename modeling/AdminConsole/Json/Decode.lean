/-
# `Json.Decode` — decoding records from JSON

A record is given as an object, whose members are met in the order of their
names and of which unknown ones do no harm.  Some records may also be given as
an array of their fields in the order of declaration.  The first field that does
not fit is reported; fields that are missing are reported only when all that are
there fit.
-/
import AdminConsole.Json.Value
import AdminConsole.Text.Integer
import AdminConsole.Text.Quoted

namespace AdminConsole.Json

/-! ## What goes wrong -/

/-- The form that a value should have. -/
inductive Shape where
  | int64
  | nat64
  | nat32
  | boolean
  | string
  | sequence
  | map
  | url
  | record (name : String)
  deriving DecidableEq, Repr

def Shape.toText : Shape → String
  | .int64 => "i64"
  | .nat64 => "u64"
  | .nat32 => "u32"
  | .boolean => "a boolean"
  | .string => "a string"
  | .sequence => "a sequence"
  | .map => "a map"
  | .url => "a string representing an URL"
  | .record name => "struct " ++ name

/-- How a value is referred to in a message. -/
def describe : Json → String
  | .null => "null"
  | .bool b => "boolean `" ++ (if b then "true" else "false") ++ "`"
  | .number (.int n) => "integer `" ++ toString n ++ "`"
  | .number (.double d) => "floating point `" ++ d.toText ++ "`"
  | .string s => "string " ++ Text.quoted s
  | .array _ => "sequence"
  | .object _ => "map"

/-- Why a value does not decode. -/
inductive DecodeError where
  | missingField (name : String)
  | invalidType (found : Json) (expected : Shape)
  | invalidValue (found : Json) (expected : Shape)
  | tooShort (length : Nat) (record : String) (fields : Nat)
  | tooLong (length : Nat)
  | invalidUrl (problem : String) (text : String)

def DecodeError.message : DecodeError → String
  | .missingField name => "missing field `" ++ name ++ "`"
  | .invalidType found expected =>
    "invalid type: " ++ found.describe ++ ", expected " ++ expected.toText
  | .invalidValue found expected =>
    "invalid value: " ++ found.describe ++ ", expected " ++ expected.toText
  | .tooShort length record fields =>
    "invalid length " ++ toString length ++ ", expected struct " ++ record ++ " with "
      ++ toString fields ++ " elements"
  | .tooLong length => "invalid length " ++ toString length ++ ", expected fewer elements in array"
  | .invalidUrl problem text => problem ++ ": " ++ Text.quoted text

abbrev Decoded := Except DecodeError

/-! ## Plain values -/

/-- An integer between two bounds. -/
def decodeInteger (lo hi : Int) (shape : Shape) : Json → Decoded Int
  | .number (.int n) =>
    if lo ≤ n ∧ n ≤ hi then .ok n else .error (.invalidValue (int n) shape)
  | j => .error (.invalidType j shape)

def decodeInt64 : Json → Decoded Int := decodeInteger Text.minInt64 Text.maxInt64 .int64

def decodeNat64 (j : Json) : Decoded Nat :=
  (decodeInteger 0 Text.maxNat64 .nat64 j).map Int.toNat

def decodeNat32 (j : Json) : Decoded Nat :=
  (decodeInteger 0 Text.maxNat32 .nat32 j).map Int.toNat

def decodeBool : Json → Decoded Bool
  | .bool b => .ok b
  | j => .error (.invalidType j .boolean)

def decodeString : Json → Decoded String
  | .string s => .ok s
  | j => .error (.invalidType j .string)

def decodeOption {α : Type} (item : Json → Decoded α) : Json → Decoded (Option α)
  | .null => .ok none
  | j => (item j).map some

def decodeList {α : Type} (item : Json → Decoded α) : Json → Decoded (List α)
  | .array js => js.mapM item
  | j => .error (.invalidType j .sequence)

def decodeDict {α : Type} (item : Json → Decoded α) : Json → Decoded (Dict α)
  | .object ms => do
    let es ← ms.mapM fun (m : String × Json) => (item m.2).map fun a => (m.1, a)
    pure (Dict.ofList es)
  | j => .error (.invalidType j .map)

/-! ## Records -/

/-- A field of a record: its name and whether a value fits. -/
structure Field where
  name : String
  fits : Json → Decoded Unit

/-- The field that a reader of its values gives. -/
def Field.of {α : Type} (name : String) (item : Json → Decoded α) : Field :=
  ⟨name, fun j => (item j).map fun _ => ()⟩

/-- Whether a member fits its field; a member without a field always does. -/
def Field.check (fields : List Field) (m : String × Json) : Decoded Unit :=
  match fields.find? fun f => f.name == m.1 with
  | some f => f.fits m.2
  | none => .ok ()

/-- Members in the order in which they are met, and the error for one that is missing. -/
structure Members where
  entries : List (String × Json)
  missing : String → DecodeError

namespace Members

variable {α : Type}

/-- A field that has to be there. -/
def required (ms : Members) (name : String) (item : Json → Decoded α) : Decoded α :=
  match Entries.get? name ms.entries with
  | some j => item j
  | none => .error (ms.missing name)

/-- A field with a value of its own when it is missing. -/
def defaulted (ms : Members) (name : String) (item : Json → Decoded α) (a : α) : Decoded α :=
  match Entries.get? name ms.entries with
  | some j => item j
  | none => .ok a

/-- A field that may be missing or null. -/
def optional (ms : Members) (name : String) (item : Json → Decoded α) : Decoded (Option α) :=
  ms.defaulted name (decodeOption item) none

def rest (ms : Members) (fields : List Field) : Dict Json :=
  Dict.ofList (ms.entries.filter fun m => !(fields.any fun f => f.name == m.1))

end Members

/-- A record that is given as an object. -/
def decodeObject {α : Type} (record : String) (fields : List Field) (build : Members → Decoded α) :
    Json → Decoded α
  | .object entries => do
    entries.forM (Field.check fields)
    build ⟨entries, .missingField⟩
  | j => .error (.invalidType j (.record record))

/-- A record that is given as an object or as an array of its fields. -/
def decodeRecord {α : Type} (record : String) (fields : List Field) (build : Members → Decoded α) :
    Json → Decoded α
  | .array items => do
    let names := fields.map (·.name)
    let entries := names.zip items
    entries.forM (Field.check fields)
    let a ← build ⟨entries, fun name => .tooShort (names.idxOf name) record fields.length⟩
    if fields.length < items.length then .error (.tooLong items.length) else .ok a
  | j => decodeObject record fields build j

end AdminConsole.Json
