/-
# `Url.Host` — reading the host of a URL

A domain, an IPv4 address in any of its spellings, or an IPv6 address between
brackets.
-/
import AdminConsole.Url.Basic
import AdminConsole.Url.Domain

namespace AdminConsole.Url

/-! ## Numbers -/

/-- The value of digits in a base. -/
def readDigits? (base : Nat) : List Char → Option Nat
  | cs => cs.foldl (fun acc c => do
      let n ← acc
      let d ← Percent.hexValue? c
      if d < base then some (n * base + d) else none) (some 0)

/-- A part of an IPv4 address: decimal, octal behind a zero, or hexadecimal behind `0x`. -/
def ipv4Part? : List Char → Option Nat
  | [] => none
  | '0' :: 'x' :: r => readDigits? 16 r
  | '0' :: 'X' :: r => readDigits? 16 r
  | '0' :: c :: r => readDigits? 8 (c :: r)
  | cs => readDigits? 10 cs

/-- The parts of a domain, without an empty one at the end. -/
def domainParts (cs : List Char) : List (List Char) :=
  let parts := Text.splitAll '.' cs
  if 1 < parts.length && parts.getLast? == some [] then parts.dropLast else parts

/-- Whether a domain has to be an IPv4 address: its last part is a number. -/
def endsInNumber (cs : List Char) : Bool :=
  match (domainParts cs).getLast? with
  | none => false
  | some [] => false
  | some part => part.all Char.isDigit ||
    (match part with
      | '0' :: 'x' :: r => (readDigits? 16 r).isSome
      | '0' :: 'X' :: r => (readDigits? 16 r).isSome
      | _ => false)

/-- Put the parts of an address together; the last one fills all bytes that are left. -/
def ipv4OfParts? : Nat → List Nat → Option Nat
  | _, [] => none
  | left, [n] => if n < Nat.pow 256 left then some n else none
  | left, n :: r =>
    if n < 256 then (ipv4OfParts? (left - 1) r).map (n * Nat.pow 256 (left - 1) + ·) else none

def readIpv4? (cs : List Char) : Option Nat := do
  let parts := domainParts cs
  let numbers ← parts.mapM ipv4Part?
  if 4 < numbers.length then none else ipv4OfParts? 4 numbers

/-- An IPv4 address of four decimal parts, as two units. -/
def ipv4Units? (cs : List Char) : Option (List Nat) := do
  let parts := Text.splitAll '.' cs
  let numbers ← parts.mapM fun p => match p with
    | [] => none
    | ['0'] => some 0
    | '0' :: _ => none
    | p => readDigits? 10 p
  match numbers with
  | [a, b, c, d] =>
    if a < 256 ∧ b < 256 ∧ c < 256 ∧ d < 256 then some [a * 256 + b, c * 256 + d] else none
  | _ => none

/-- A unit of an IPv6 address: one to four hexadecimal digits. -/
def ipv6Unit? (cs : List Char) : Option Nat :=
  if cs.isEmpty || 4 < cs.length then none else readDigits? 16 cs

/-- Units with colons between them; the last may be an IPv4 address. -/
def ipv6Units? : List (List Char) → Option (List Nat)
  | [] => some []
  | [p] => if p.contains '.' then ipv4Units? p else (ipv6Unit? p).map ([·])
  | p :: q :: r => do
    let u ← ipv6Unit? p
    let us ← ipv6Units? (q :: r)
    pure (u :: us)

/-- The parts before and after the first two colons in a row. -/
def splitDoubleColon : List Char → Option (List Char × List Char)
  | ':' :: ':' :: r => some ([], r)
  | c :: r => (splitDoubleColon r).map fun (before, after) => (c :: before, after)
  | [] => none

/-- Units written with colons; an empty text has none. -/
def ipv6Side? (cs : List Char) : Option (List Nat) :=
  if cs.isEmpty then some [] else ipv6Units? (Text.splitAll ':' cs)

def readIpv6? (cs : List Char) : Option (List Nat) :=
  match splitDoubleColon cs with
  | none => do
    let us ← ipv6Side? cs
    if us.length = 8 then some us else none
  | some (before, after) => do
    if before.contains '.' then none
    let front ← ipv6Side? before
    let back ← ipv6Side? after
    if 7 < front.length + back.length then none
    else some (front ++ List.replicate (8 - front.length - back.length) 0 ++ back)

/-! ## Hosts -/

/-- The characters that no host of another scheme holds. -/
def isDeniedInHost (c : Char) : Bool :=
  c.toNat == 0 || "\t\n\r #/:<>?@[\\]^|".toList.contains c

/-- The characters that are escaped everywhere: controls and those outside ASCII. -/
def isControl (c : Char) : Bool := c.toNat < 0x20 || 0x7E < c.toNat

/-- The address between brackets, if the host begins with one. -/
def bracketed? (cs : List Char) : Option (Except Fault Host) :=
  match cs with
  | '[' :: r =>
    some (if r.getLast? = some ']' then
      match readIpv6? r.dropLast with
      | some units => .ok (.ipv6 units)
      | none => .error .invalidIpv6
    else .error .invalidIpv6)
  | _ => none

/-- The host of a URL whose scheme is special. -/
def readDomain (cs : List Char) : Except Fault Host :=
  match Percent.ofUtf8? (Percent.decodeBytes cs) with
  | none => .error .invalidDomainName
  | some s => match asciiDomain? s.toList with
    | none => .error .invalidDomainName
    | some [] => .error .emptyHost
    | some domain =>
      if endsInNumber domain then
        match readIpv4? domain with
        | some n => .ok (.ipv4 n)
        | none => .error .invalidIpv4
      else .ok (.domain (String.ofList domain))

/-- The host of a URL whose scheme is not special. -/
def readOtherHost (cs : List Char) : Except Fault Host :=
  if cs.any isDeniedInHost then .error .invalidDomainCharacter
  else .ok (.domain (String.ofList (Percent.encodeWith (fun c => !isControl c) cs)))

def readHost (special : Bool) (cs : List Char) : Except Fault Host :=
  match bracketed? cs with
  | some r => r
  | none => if special then readDomain cs else readOtherHost cs

end AdminConsole.Url
