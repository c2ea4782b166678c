/-
# `Query.Location` — a list's part of the search string, read and written

The string is a row of pieces between `&`, each a key and, after its first `=`,
a value.  Keys are compared decoded but kept as they were written, so an update
of one list's part leaves every other piece as it is.  A comma inside a scalar
is percent-encoded, so a value is cut at its commas before it is decoded.
-/
import AdminConsole.Query.Combine

namespace AdminConsole.Query

/-! ## Pieces -/

/-- A piece as written: its key and its value, which is empty when there is no `=`. -/
abbrev Piece := List Char × List Char

def Piece.ofChars (cs : List Char) : Piece := (Text.splitFirst '=' cs).getD (cs, [])

/-- A piece written with its `=`. -/
def Piece.toChars (p : Piece) : List Char := p.1 ++ '=' :: p.2

/-- The pieces that are not empty, after the question marks in front. -/
def pieces (search : String) : List Piece :=
  let body := search.toList.dropWhile (· == '?')
  ((Text.splitAll '&' body).filter fun p => !p.isEmpty).map Piece.ofChars

/-- The key that a piece stands for, if it has a namespace and a field. -/
def Piece.key? (p : Piece) : Option Key := Key.ofChars? (Percent.decode p.1)

/-- The field of a piece that belongs to the scope. -/
def Scope.field? (scope : Scope) (p : Piece) : Option String :=
  match p.key? with
  | some k => if scope.owns k then some k.field else none
  | none => none

/-! ## Reading -/

def Scope.readScalar (scope : Scope) (field : String) (part : List Char) : Scalar :=
  let text := Percent.decode part
  if scope.isInteger field then
    match Text.int64? (Text.trimBlanks text) with
    | some n => .int n
    | none => .text (String.ofList text)
  else .text (String.ofList text)

def Scope.readValue (scope : Scope) (field : String) (raw : List Char) : Value :=
  Value.ofParts ((Text.splitAll ',' raw).map (scope.readScalar field))

/-- Take up one piece, unless it belongs to another list. -/
def Scope.readPiece (scope : Scope) (params : Params) (p : Piece) : Params :=
  match scope.field? p with
  | some field => appendValue params field (scope.readValue field p.2)
  | none => params

/-- The values that the search string itself gives to this list. -/
def Scope.readOwn (scope : Scope) (search : String) : Params :=
  (pieces search).foldl scope.readPiece Dict.empty

/-- The list's query: what the search string says, over the defaults. -/
def parse (scope : Scope) (search : String) : Params :=
  scope.defaults.overlay (scope.readOwn search)

/-! ## Writing -/

/-- A key and its value with `=` between them. -/
def writeEntry (key : String) (v : Value) : String := Percent.encode key ++ "=" ++ v.encode

/-- All params without a namespace, in the order of their keys. -/
def encodeBare (params : Params) : String :=
  Text.joinText "&" ((params.toList.filter fun e => !e.2.isEmpty).map fun e => writeEntry e.1 e.2)

/-- The entries that have to be written: those that hold something and differ from the default. -/
def Scope.deviations (scope : Scope) (params : Params) : List (String × Value) :=
  params.toList.filter fun e => !e.2.isEmpty && !scope.isDefault e.1 e.2

/-- The list's own part of the search string; whatever equals its default stays out. -/
def encode (scope : Scope) (params : Params) : String :=
  Text.joinText "&"
    ((scope.deviations params).map fun e => writeEntry (scope.key e.1).toText e.2)

/-- The pieces of a search string that do not belong to the scope. -/
def Scope.foreign (scope : Scope) (search : String) : List Piece :=
  (pieces search).filter fun p => (scope.field? p).isNone

/-- Update this list's part of a search string and keep every other piece. -/
def update (scope : Scope) (search : String) (params : Params) : String :=
  let others := (scope.foreign search).map fun p => String.ofList p.toChars
  let own := encode scope params
  Text.joinText "&" (if own.isEmpty then others else others ++ [own])

end AdminConsole.Query
