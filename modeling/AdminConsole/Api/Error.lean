/-
# `Api.Error` — the failure of one call on the service

The body of a refusal is kept as the service sent it.  `messages` lays it out in
lines: a text stands for itself, an array for the lines of its items, null for
none, and any other value for its JSON text.  In an object each line is preceded
by the name of its member, unless the object has a text under `detail`, which is
then the only line.
-/
import AdminConsole.Json.Decode
import AdminConsole.Json.Printer
import AdminConsole.Text.Pieces

namespace AdminConsole

/-- A call that failed. -/
structure ApiError where
  method : String
  url : String
  status : Option Nat
  body : Option Json
  message : String
  deriving Inhabited

namespace ApiError

/-! ## Lines of a body -/

mutual

def lines : Json → List String
  | .null => []
  | .string s => [s]
  | .array items => itemLines items
  | .bool b => [(Json.bool b).compact]
  | .number n => [(Json.number n).compact]
  | .object members => [(Json.object members).compact]

def itemLines : List Json → List String
  | [] => []
  | j :: r => lines j ++ itemLines r

end

/-- The lines of the members of an object, each with the name in front. -/
def memberLines (members : List (String × Json)) : List String :=
  members.flatMap fun m => (lines m.2).map fun line => m.1 ++ ": " ++ line

def bodyLines : Option Json → List String
  | none => []
  | some (.object members) =>
    match Entries.get? "detail" members with
    | some (.string detail) => [detail]
    | _ => memberLines members
  | some j => lines j

/-! ## Failures -/

/-- No answer arrived. -/
def transport (method url message : String) : ApiError := ⟨method, url, none, none, message⟩

/-- What a refusal without usable body says. -/
def statusSummary (status : Nat) : String := "request failed with status " ++ toString status

/-- The service refused; the first line of the body tells why. -/
def ofStatus (method url : String) (status : Nat) (body : Option Json) : ApiError :=
  ⟨method, url, some status, body, (bodyLines body).head?.getD (statusSummary status)⟩

/-- The answer does not have the expected form. -/
def malformed (method url : String) (e : Json.DecodeError) : ApiError :=
  transport method url ("malformed response: " ++ e.message)

def isUnauthorized (e : ApiError) : Bool := e.status == some 401

def isNotFound (e : ApiError) : Bool := e.status == some 404

/-- The lines to show; without lines in the body, the summary. -/
def messages (e : ApiError) : List String :=
  match bodyLines e.body with
  | [] => [e.message]
  | ls => ls

/-- The failure on one line. -/
def toText (e : ApiError) : String := e.method ++ " " ++ e.url ++ " failed: " ++ e.message

end ApiError

end AdminConsole
