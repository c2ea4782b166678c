/-
# `Url.Basic` — the parts of a URL and its text

A URL with a plain text in place of path segments cannot be the base of relative
ones.  A `Fault` says why a text is no URL.
-/
import AdminConsole.Text.Percent
import AdminConsole.Text.Pieces

namespace AdminConsole

/-- The host of a URL; a domain is held in its ASCII form. -/
inductive Url.Host where
  | domain (name : String)
  | ipv4 (address : Nat)
  | ipv6 (units : List Nat)
  deriving DecidableEq, Repr

/-- The path of a URL: segments, or a text that is not taken apart. -/
inductive Url.Path where
  | plain (text : String)
  | segments (names : List String)
  deriving DecidableEq, Repr

/-- A URL taken apart; a port is given only if it is not the usual one of the scheme. -/
structure Url where
  scheme : String
  username : String
  password : String
  host : Option Url.Host
  port : Option Nat
  path : Url.Path
  query : Option String
  fragment : Option String
  deriving DecidableEq, Repr

namespace Url

/-! ## Schemes -/

/-- The schemes with a port of their own. -/
def defaultPort? : String → Option Nat
  | "http" => some 80
  | "https" => some 443
  | "ws" => some 80
  | "wss" => some 443
  | "ftp" => some 21
  | _ => none

/-- Whether URLs of a scheme always have a host and a path of segments. -/
def isSpecial (scheme : String) : Bool := scheme == "file" || (defaultPort? scheme).isSome

/-- Whether the path is a text that is not taken apart, so that nothing can be relative to it. -/
def cannotBeBase (u : Url) : Bool :=
  match u.path with
  | .plain _ => true
  | .segments _ => false

/-! ## Text -/

/-- A number in small hexadecimal digits. -/
def hex (n : Nat) : String := String.ofList (Nat.toDigits 16 n)

/-- The four bytes of an address with points between them. -/
def ipv4Text (n : Nat) : String :=
  Text.joinText "." ([n / 16777216, n / 65536 % 256, n / 256 % 256, n % 256].map toString)

/-- The length of the run of zeros at the front of a list. -/
def zeroRun : List Nat → Nat
  | 0 :: r => zeroRun r + 1
  | _ => 0

/-- Where the longest run of zeros starts and how long it is; of equal ones the first. -/
def longestZeroRun : Nat → List Nat → Nat × Nat
  | _, [] => (0, 0)
  | i, u :: r =>
    let here := zeroRun (u :: r)
    let (j, later) := longestZeroRun (i + 1) r
    if later ≤ here then (i, here) else (j, later)

/-- The units of an address, its longest run of two or more zeros left out. -/
def ipv6Text (units : List Nat) : String :=
  let (i, n) := longestZeroRun 0 units
  if n < 2 then Text.joinText ":" (units.map hex)
  else Text.joinText ":" ((units.take i).map hex) ++ "::"
    ++ Text.joinText ":" ((units.drop (i + n)).map hex)

def Host.toText : Host → String
  | .domain name => name
  | .ipv4 n => ipv4Text n
  | .ipv6 units => "[" ++ ipv6Text units ++ "]"

/-- User name and password in front of the host. -/
def credentials (u : Url) : String :=
  if u.username.isEmpty && u.password.isEmpty then ""
  else u.username ++ (if u.password.isEmpty then "" else ":" ++ u.password) ++ "@"

def portText (u : Url) : String :=
  match u.port with
  | some p => ":" ++ toString p
  | none => ""

def Path.toText : Path → String
  | .plain text => text
  | .segments names => String.join (names.map fun s => "/" ++ s)

/-- The part of a URL between its scheme and its query. -/
def hierarchy (u : Url) : String :=
  match u.host with
  | some h => "//" ++ u.credentials ++ h.toText ++ u.portText ++ u.path.toText
  | none => match u.path with
    | .segments ("" :: s :: r) => "/." ++ (Path.segments ("" :: s :: r)).toText
    | p => p.toText

def toText (u : Url) : String :=
  u.scheme ++ ":" ++ u.hierarchy
    ++ (match u.query with
      | some q => "?" ++ q
      | none => "")
    ++ (match u.fragment with
      | some f => "#" ++ f
      | none => "")

/-! ## Faults -/

/-- Why a text is no URL. -/
inductive Fault where
  | emptyHost
  | invalidDomainName
  | invalidPort
  | invalidIpv4
  | invalidIpv6
  | invalidDomainCharacter
  | relativeWithoutBase
  | relativeToPlainPath
  deriving DecidableEq, Repr

def Fault.message : Fault → String
  | .emptyHost => "empty host"
  | .invalidDomainName => "invalid international domain name"
  | .invalidPort => "invalid port number"
  | .invalidIpv4 => "invalid IPv4 address"
  | .invalidIpv6 => "invalid IPv6 address"
  | .invalidDomainCharacter => "invalid domain character"
  | .relativeWithoutBase => "relative URL without a base"
  | .relativeToPlainPath => "relative URL with a cannot-be-a-base base"

end Url

end AdminConsole
