/-
# `Http.Response` — responses as replies to calls

A body that is no JSON is kept as a text, and an empty one is none.  A status
outside of 200 to 299 is a refusal; otherwise the body has to have the form of
the reply, and nothing is asked of it where the call has no reply.
-/
import AdminConsole.Api.Call
import AdminConsole.Api.Error
import AdminConsole.Json.Parser
import AdminConsole.Text.Bytes

namespace AdminConsole.Http

/-- A response: its status and the bytes of its body. -/
structure Response where
  status : Nat
  bytes : List UInt8
  deriving DecidableEq, Repr

namespace Response

/-- The text of a body that is no JSON. -/
def plainText (bs : List UInt8) : Json := .string (Text.trim (Text.lossy bs))

def body (r : Response) : Option Json :=
  if r.bytes.isEmpty then none
  else match (Percent.ofUtf8? r.bytes).bind Json.parse? with
    | some j => some j
    | none => some (plainText r.bytes)

def isSuccess (r : Response) : Bool := 200 ≤ r.status && r.status < 300

end Response

/-- The reply in the body of a successful response. -/
def decodeReply : {α : Type} → Call α → Option Json → Json.Decoded α
  | _, .list .., j => Listing.decode Item.decode (j.getD .null)
  | _, .read .., j => Item.decode (j.getD .null)
  | _, .schema _, j => Schema.decode (j.getD .null)
  | _, .create .., j => Item.decode (j.getD .null)
  | _, .update .., j => Item.decode (j.getD .null)
  | _, .destroy .., _ => .ok ()
  | _, .associate .., _ => .ok ()
  | _, .fetch .., j => .ok (j.getD .null)

def Response.reply {α : Type} (url : String) (c : Call α) (r : Response) : Except ApiError α :=
  if r.isSuccess then
    match decodeReply c r.body with
    | .ok a => .ok a
    | .error e => .error (.malformed c.method url e)
  else .error (.ofStatus c.method url r.status r.body)

end AdminConsole.Http
