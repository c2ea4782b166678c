/-
# `Http.Request` — calls as requests

A client knows the URL to which the paths of endpoints are relative and the
token that goes with every request.  A request is refused before it is sent when
its URL is not one of the web or when the token cannot stand in a header.

The params of a call are written like the fields of a form: a blank as `+`,
letters, digits and `*` `-` `.` `_` as themselves, and every other byte of the
UTF-8 form escaped.
-/
import AdminConsole.Api.Flight
import AdminConsole.Console.Config
import AdminConsole.Text.Percent
import AdminConsole.Text.Pieces

namespace AdminConsole.Http

/-! ## Forms -/

/-- The characters that stand for themselves in a form. -/
def isFormSafe (c : Char) : Bool :=
  c.isAlphanum || c == '*' || c == '-' || c == '.' || c == '_'

def formByte (b : UInt8) : List Char := if b = 32 then ['+'] else Percent.encodeByte isFormSafe b

def formText (s : String) : String := String.ofList ((Percent.utf8 s.toList).flatMap formByte)

/-- Pairs as fields with `&` between them. -/
def formPairs (pairs : List (String × String)) : String :=
  Text.joinText "&" (pairs.map fun (name, value) => formText name ++ "=" ++ formText value)

/-! ## Clients and requests -/

/-- What makes requests out of calls, and how many seconds it waits for an answer. -/
structure Client where
  base : Url
  token : Option String
  timeoutSecs : Nat
  deriving DecidableEq, Repr

/-- A request: its credentials are those of a user or a token. -/
structure Request where
  method : String
  url : Url
  token : Option String
  credentials : Option (String × String)
  body : Option Json

/-- Why a request cannot be sent, or that it has not been answered. -/
inductive Fault where
  | unsupportedUrl (url : Url)
  | invalidHeader
  | unanswered (url : Url)
  deriving DecidableEq, Repr

def Fault.message : Fault → String
  | .unsupportedUrl url => "builder error for url (" ++ url.toText ++ ")"
  | .invalidHeader => "builder error"
  | .unanswered url => "error sending request for url (" ++ url.toText ++ ")"

/-! ## URLs -/

/-- A URL with further pairs at the end of its query; an empty query is dropped. -/
def withPairs (u : Url) (pairs : List (String × String)) : Url :=
  let given := u.query.getD ""
  let added := formPairs pairs
  let query := if given.isEmpty || added.isEmpty then given ++ added else given ++ "&" ++ added
  { u with query := if query.isEmpty then none else some query }

/-- The text of a percent-encoded part, if its bytes are one. -/
def decoded? (s : String) : Option String := Percent.ofUtf8? (Percent.decodeBytes s.toList)

/-- The credentials that a URL carries, if they can be read: a user name, which has to be a text, and a
password, which is dropped if it is none. -/
def credentials? (u : Url) : Option (String × String) := do
  let username ← decoded? u.username
  match if u.password.isEmpty then none else decoded? u.password with
  | some password => some (username, password)
  | none => if username.isEmpty then none else some (username, "")

/-- A URL without the credentials that can be read. -/
def withoutCredentials (u : Url) : Url :=
  if (credentials? u).isSome then { u with username := "", password := "" } else u

/-- Whether a character can stand in the name of a host that requests are sent to. -/
def fitsHostName (c : Char) : Bool := !("\"<>\\^`\x7b|\x7d".toList.contains c)

/-- How many bytes the text of a request's URL can have. -/
def maxUrlLength : Nat := 65534

/-- Whether a request can be sent to a URL. -/
def isSendable (u : Url) : Bool :=
  (match u.host with
    | some h => h.toText.toList.all fitsHostName
    | none => false)
    && u.toText.utf8ByteSize ≤ maxUrlLength

/-- Whether a URL names a host. -/
def namesHost (u : Url) : Bool :=
  match u.host with
  | none => false
  | some (.domain name) => !name.isEmpty
  | some _ => true

/-- Whether requests can be sent to URLs of a scheme. -/
def isWebScheme (scheme : String) : Bool := scheme == "http" || scheme == "https"

/-- Whether a character can stand in a header. -/
def fitsHeader (c : Char) : Bool := (32 ≤ c.toNat && c.toNat != 127) || c == '\t'

namespace Client

variable {α : Type}

def ofConfig (c : ConsoleConfig) : Except ConfigError Client := do
  c.validate
  let base ← c.apiBase
  pure ⟨base, c.token, c.timeoutSecs⟩

def url (client : Client) (e : Endpoint) : Except ApiError Url :=
  match client.base.join e.path with
  | .ok u => .ok u
  | .error fault => .error (.transport "" e.path ("invalid endpoint: " ++ fault.message))

def callUrl (u : Url) (c : Call α) : Url :=
  match c.params? with
  | some params => withPairs u (Query.wirePairs params)
  | none => u

/-- Whether the token can stand in a header. -/
def tokenFits (client : Client) : Bool :=
  match client.token with
  | some token => token.toList.all fitsHeader
  | none => true

/-- The request of a call to a URL. -/
def requestTo (client : Client) (u : Url) (c : Call α) : Except Fault Request :=
  if !namesHost u then .error (.unsupportedUrl u)
  else if !client.tokenFits then .error .invalidHeader
  else
    let target := callUrl (withoutCredentials u) c
    if isWebScheme u.scheme && isSendable target then
      .ok ⟨c.method, target, client.token, credentials? u, c.body?⟩
    else .error (.unsupportedUrl target)

def failure (u : Url) (c : Call α) (fault : Fault) : ApiError :=
  .transport c.method u.toText fault.message

def request (client : Client) (c : Call α) : Except ApiError Request := do
  let u ← client.url c.endpoint
  match client.requestTo u c with
  | .ok r => .ok r
  | .error fault => .error (failure u c fault)

/-- The failure of a call when nobody answers. -/
def unanswered (client : Client) (c : Call α) : ApiError :=
  match client.url c.endpoint with
  | .error e => e
  | .ok u => match client.requestTo u c with
    | .ok r => failure u c (.unanswered r.url)
    | .error fault => failure u c fault

/-- The service on a network where nobody answers. -/
def unreachable (client : Client) : Service Id := .asking fun c => .error (client.unanswered c)

end Client

end AdminConsole.Http
