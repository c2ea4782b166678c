/-
# `Command.Value` — the values of command-line arguments

Filters, parents, kinds, URLs, numbers and the names of formats.
-/
import AdminConsole.Logging.Journal
import AdminConsole.Resource.Kind
import AdminConsole.Text.Integer
import AdminConsole.Url.Resolve

namespace AdminConsole.Command

/-! ## What goes wrong -/

/-- Why a text is not the value of an argument. -/
inductive ValueFault where
  | notKeyValue (input : String)
  | missingKey (input : String)
  | notParent (input : String)
  | parentId (id : String) (fault : Text.IntegerFault)
  | unknownKind (input : String)
  | invalidUrl (input : String) (fault : Url.Fault)
  | integer (fault : Text.IntegerFault)
  | outside (value lo hi : Int)
  deriving DecidableEq, Repr

def ValueFault.message : ValueFault → String
  | .notKeyValue input => "filter '" ++ input ++ "' must be KEY=VALUE"
  | .missingKey input => "filter '" ++ input ++ "' is missing a key"
  | .notParent input => "parent '" ++ input ++ "' must be RESOURCE/ID"
  | .parentId id fault => "invalid parent id '" ++ id ++ "': " ++ fault.message
  | .unknownKind input => Kind.unknownMessage input
  | .invalidUrl input fault => "invalid URL '" ++ input ++ "': " ++ fault.message
  | .integer fault => fault.message
  | .outside value lo hi =>
    toString value ++ " is not in " ++ toString lo ++ "..=" ++ toString hi

/-! ## Filters and parents -/

/-- A filter: a key and the value that it is compared with. -/
structure Filter where
  key : String
  value : String
  deriving DecidableEq, Repr

/-- Read a filter, cut at its first equals sign; the blanks around the key do not count. -/
def Filter.parse (input : String) : Except ValueFault Filter :=
  match Text.splitFirst '=' input.toList with
  | none => .error (.notKeyValue input)
  | some (key, value) =>
    let key := Text.trimBlanks key
    if key.isEmpty then .error (.missingKey input)
    else .ok ⟨String.ofList key, String.ofList value⟩

/-- A resource to which others are attached. -/
structure Parent where
  kind : Kind
  id : ResourceId
  deriving DecidableEq, Repr

def readKind (input : String) : Except ValueFault Kind :=
  match Kind.ofName? input with
  | some k => .ok k
  | none => .error (.unknownKind input)

def readParentId (id : String) : Except ValueFault ResourceId :=
  match Text.readInt64 id with
  | .ok n => .ok n
  | .error fault => .error (.parentId id fault)

/-- Read a parent, cut at its first slash; slashes around it do not count. -/
def Parent.parse (input : String) : Except ValueFault Parent :=
  match Text.splitFirst '/' (Text.trimBy (· == '/') input.toList) with
  | none => .error (.notParent input)
  | some (kind, id) => do
    let kind ← readKind (String.ofList kind)
    let id ← readParentId (String.ofList id)
    pure ⟨kind, id⟩

/-! ## URLs and numbers -/

def readUrl (input : String) : Except ValueFault Url :=
  match Url.parse input with
  | .ok u => .ok u
  | .error fault => .error (.invalidUrl input fault)

/-- Read an integer within bounds. -/
def readBounded (lo hi : Int) (input : String) : Except ValueFault Int :=
  match Text.readInteger lo hi input.toList with
  | .ok n => .ok n
  | .error fault => .error (.integer fault)

def readInt64 : String → Except ValueFault Int := readBounded Text.minInt64 Text.maxInt64

def readNat64 (input : String) : Except ValueFault Nat :=
  (readBounded 0 Text.maxNat64 input).map Int.toNat

/-- Read an unsigned integer of 32 bits; a signed one of 64 bits outside of these is told as such. -/
def readNat32 (input : String) : Except ValueFault Nat := do
  let n ← readInt64 input
  if 0 ≤ n ∧ n ≤ Text.maxNat32 then pure n.toNat else throw (.outside n 0 Text.maxNat32)

/-! ## Formats -/

inductive OutputFormat where
  | table
  | json
  deriving DecidableEq, Repr

def OutputFormat.name : OutputFormat → String
  | .table => "table"
  | .json => "json"

def OutputFormat.all : List OutputFormat := [.table, .json]

def OutputFormat.ofName? (s : String) : Option OutputFormat := all.find? fun f => f.name == s

def logFormats : List Logging.Format := [.pretty, .json]

/-- The format of the log with exactly a name. -/
def logFormat? (s : String) : Option Logging.Format := logFormats.find? fun f => f.name == s

end AdminConsole.Command
