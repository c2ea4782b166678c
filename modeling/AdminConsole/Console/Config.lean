/-
# `Console.Config` — the settings of the console

Where the service is, how long to wait for it, how many rows a page has and
which token goes with every request.
-/
import AdminConsole.Json.Decode
import AdminConsole.Url.Resolve

namespace AdminConsole

open Json

structure ConsoleConfig where
  apiUrl : Url
  apiPath : String
  timeoutSecs : Nat
  defaultPageSize : Nat
  token : Option String
  deriving DecidableEq, Repr

/-- Why settings cannot be used. -/
inductive ConfigError where
  | zeroPageSize
  | zeroTimeout
  | invalidApiPath (given : String)
  | invalidBaseUrl (url : String)
  deriving DecidableEq, Repr

def ConfigError.message : ConfigError → String
  | .zeroPageSize => "page size must be greater than zero"
  | .zeroTimeout => "HTTP timeout must be greater than zero"
  | .invalidApiPath given => "API prefix '" ++ given ++ "' must start and end with '/'"
  | .invalidBaseUrl url => "API URL '" ++ url ++ "' cannot be used as a base URL"

namespace ConsoleConfig

/-- The path of the service on its server unless told otherwise. -/
def usualApiPath : String := "/api/v2/"
/-- How many seconds to wait unless told otherwise. -/
def usualTimeout : Nat := 10
/-- How many rows a page has unless told otherwise. -/
def usualPageSize : Nat := 20

def ofUrl (apiUrl : Url) : ConsoleConfig :=
  ⟨apiUrl, usualApiPath, usualTimeout, usualPageSize, none⟩

def decodeUrl : Json → Decoded Url
  | .string s => match Url.parse s with
    | .ok u => .ok u
    | .error e => .error (.invalidUrl e.message s)
  | j => .error (.invalidType j .url)

def fields : List Field :=
  [.of "api_url" decodeUrl, .of "api_prefix" decodeString, .of "timeout_secs" decodeNat64,
   .of "default_page_size" decodeNat32, .of "token" (decodeOption decodeString)]

def decode : Json → Decoded ConsoleConfig :=
  decodeRecord "ConsoleConfig" fields fun ms => do
    let apiUrl ← ms.required "api_url" decodeUrl
    let apiPath ← ms.defaulted "api_prefix" decodeString usualApiPath
    let timeoutSecs ← ms.defaulted "timeout_secs" decodeNat64 usualTimeout
    let defaultPageSize ← ms.defaulted "default_page_size" decodeNat32 usualPageSize
    let token ← ms.optional "token" decodeString
    pure ⟨apiUrl, apiPath, timeoutSecs, defaultPageSize, token⟩

/-- Write settings; the token stays out. -/
def toJson (c : ConsoleConfig) : Json :=
  .object [("api_url", .string c.apiUrl.toText), ("api_prefix", .string c.apiPath),
    ("timeout_secs", Json.int c.timeoutSecs), ("default_page_size", Json.int c.defaultPageSize)]

/-- Whether a path starts and ends with a slash. -/
def isEnclosed (path : String) : Bool :=
  path.toList.head? == some '/' && path.toList.getLast? == some '/'

/-- Check the settings; the first thing that is wrong is told. -/
def validate (c : ConsoleConfig) : Except ConfigError Unit :=
  if c.defaultPageSize = 0 then .error .zeroPageSize
  else if c.timeoutSecs = 0 then .error .zeroTimeout
  else if !isEnclosed c.apiPath then .error (.invalidApiPath c.apiPath)
  else if c.apiUrl.cannotBeBase then .error (.invalidBaseUrl c.apiUrl.toText)
  else .ok ()

/-- The URL to which the paths of endpoints are relative. -/
def apiBase (c : ConsoleConfig) : Except ConfigError Url :=
  match c.apiUrl.join c.apiPath with
  | .ok u => .ok u
  | .error _ => .error (.invalidBaseUrl c.apiUrl.toText)

end ConsoleConfig

end AdminConsole
