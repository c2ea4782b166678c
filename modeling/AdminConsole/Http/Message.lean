/-
# `Http.Message` — requests and responses as they are on the wire

A request is a line, headers, a blank line and a body.  The end of a response's
body is told by chunks, by a length, or by the end of the connection, in this
order; a response that breaks off before that is none.
-/
import AdminConsole.Http.Request
import AdminConsole.Http.Response
import AdminConsole.Json.Printer
import AdminConsole.Text.Bytes
import AdminConsole.Text.Integer
import AdminConsole.Text.Pieces

namespace AdminConsole.Http

/-- A header: its name in small letters and its value. -/
abbrev Header := String × String

def lineEnd : String := "\r\n"

/-! ## Requests -/

/-- What a request asks for on its server. -/
def target (u : Url) : String :=
  u.path.toText ++ match u.query with
    | some q => "?" ++ q
    | none => ""

def server (u : Url) : String := (u.host.map Url.Host.toText).getD "" ++ u.portText

/-- The header with the credentials of a user. -/
def userHeader (user password : String) : Header :=
  ("authorization", "Basic " ++ String.ofList (Base64.encode (user ++ ":" ++ password).toUTF8.toList))

/-- The header with a token. -/
def tokenHeader (token : String) : Header := ("authorization", "Bearer " ++ token)

namespace Request

def bodyText? (r : Request) : Option String := r.body.map Json.compact

def bodyHeaders (text : String) : List Header :=
  [("content-type", "application/json"), ("content-length", toString text.utf8ByteSize)]

/-- The headers of a request that bears a number of its own. -/
def headers (r : Request) (number : String) : List Header :=
  [("host", server r.url), ("accept", "*/*"), ("connection", "close"), ("x-request-id", number)]
    ++ (r.credentials.toList.map fun (user, password) => userHeader user password)
    ++ r.token.toList.map tokenHeader
    ++ (r.bodyText?.map bodyHeaders).getD []

def headerLine (h : Header) : String := h.1 ++ ": " ++ h.2 ++ lineEnd

/-- The request on the wire. -/
def wire (r : Request) (number : String) : String :=
  r.method ++ " " ++ target r.url ++ " HTTP/1.1" ++ lineEnd
    ++ String.join ((r.headers number).map headerLine)
    ++ lineEnd ++ r.bodyText?.getD ""

end Request

/-! ## Responses -/

/-- A line without its end, and what follows. -/
def takeLine : List UInt8 → Option (List UInt8 × List UInt8)
  | [] => none
  | 13 :: 10 :: r => some ([], r)
  | 10 :: r => some ([], r)
  | b :: r => (takeLine r).map fun (line, rest) => (b :: line, rest)

/-- A line as text; each byte is one character. -/
def lineText (bs : List UInt8) : List Char := bs.map Char.ofUInt8

def readStatus? (line : List Char) : Option Nat :=
  match (Text.splitAll ' ' line).drop 1 with
  | code :: _ => (Text.readInteger 100 999 code).toOption.map Int.toNat
  | [] => none

def readHeader? (line : List Char) : Option Header :=
  (Text.splitFirst ':' line).map fun (name, value) =>
    (Text.lower (String.ofList name), Text.trim (String.ofList value))

/-- The headers up to a blank line; `fuel` bounds their number. -/
def readHeaders : Nat → List UInt8 → Option (List Header × List UInt8)
  | 0, _ => none
  | fuel + 1, bs => do
    let (line, rest) ← takeLine bs
    if line.isEmpty then pure ([], rest)
    else
      let header ← readHeader? (lineText line)
      let (headers, rest) ← readHeaders fuel rest
      pure (header :: headers, rest)

def headerValue? (headers : List Header) (name : String) : Option String :=
  (headers.find? fun h => h.1 == name).map (·.2)

/-- Exactly the given number of bytes, and what follows. -/
def takeExactly? (n : Nat) (bs : List UInt8) : Option (List UInt8 × List UInt8) :=
  let taken := bs.take n
  if taken.length = n then some (taken, bs.drop n) else none

def readHex? (cs : List Char) : Option Nat :=
  if cs.isEmpty then none
  else cs.foldlM (fun n c => (Percent.hexValue? c).map (16 * n + ·)) 0

/-- The size of a chunk in its first line, in which something may follow a semicolon. -/
def readChunkSize? (line : List Char) : Option Nat :=
  readHex? (Text.trimBlanks (line.takeWhile (· != ';')))

/-- The bytes of chunks up to an empty one; `fuel` bounds their number. -/
def readChunks : Nat → List UInt8 → Option (List UInt8)
  | 0, _ => none
  | fuel + 1, bs => do
    let (line, rest) ← takeLine bs
    match ← readChunkSize? (lineText line) with
    | 0 => pure []
    | n =>
      let (chunk, rest) ← takeExactly? n rest
      let (_, rest) ← takeLine rest
      pure (chunk ++ (← readChunks fuel rest))

/-- The body behind the headers. -/
def readBody? (headers : List Header) (bs : List UInt8) : Option (List UInt8) :=
  match headerValue? headers "transfer-encoding", headerValue? headers "content-length" with
  | some _, _ => readChunks (bs.length + 1) bs
  | none, some length => do
    let n ← (Text.readInteger 0 Text.maxNat64 length.toList).toOption
    (takeExactly? n.toNat bs).map (·.1)
  | none, none => some bs

/-- Whether responses with a status never have a body. -/
def isBodiless (status : Nat) : Bool := status < 200 || status == 204 || status == 304

/-- The response on the wire. -/
def Response.ofWire? (bs : List UInt8) : Option Response := do
  let (line, rest) ← takeLine bs
  let status ← readStatus? (lineText line)
  let (headers, rest) ← readHeaders (rest.length + 1) rest
  if isBodiless status then pure ⟨status, []⟩ else pure ⟨status, ← readBody? headers rest⟩

end AdminConsole.Http
