/-
# `Text.Bytes` — bytes as text

`lossy` reads bytes whether they are UTF-8 or not.  A sequence that starts like
a character but breaks off becomes one replacement character, and reading goes
on at the byte where it broke off.

In base 64, three bytes become four characters, and equals signs fill up the
last group.
-/
import AdminConsole.Text.Percent

namespace AdminConsole.Text

/-- What stands for bytes that are no character. -/
def replacement : Char := Char.ofNat 0xFFFD

/-- Whether a byte can continue a character. -/
def isContinuation (b : UInt8) : Bool := 0x80 ≤ b && b ≤ 0xBF

/-- The tests for the bytes after a first byte; no tests for a byte that starts no long character. -/
def continuations (b : UInt8) : List (UInt8 → Bool) :=
  if 0xC2 ≤ b && b ≤ 0xDF then [isContinuation]
  else if b == 0xE0 then [fun c => 0xA0 ≤ c && c ≤ 0xBF, isContinuation]
  else if b == 0xED then [fun c => 0x80 ≤ c && c ≤ 0x9F, isContinuation]
  else if 0xE1 ≤ b && b ≤ 0xEF then [isContinuation, isContinuation]
  else if b == 0xF0 then [fun c => 0x90 ≤ c && c ≤ 0xBF, isContinuation, isContinuation]
  else if b == 0xF4 then [fun c => 0x80 ≤ c && c ≤ 0x8F, isContinuation, isContinuation]
  else if 0xF1 ≤ b && b ≤ 0xF3 then [isContinuation, isContinuation, isContinuation]
  else []

/-- The bytes at the front that pass the tests one by one, and what is left of tests and bytes. -/
def takePassing : List (UInt8 → Bool) → List UInt8 → List UInt8 × List (UInt8 → Bool) × List UInt8
  | [], bs => ([], [], bs)
  | tests, [] => ([], tests, [])
  | t :: tests, b :: bs =>
    if t b then
      let (taken, tests, bs) := takePassing tests bs
      (b :: taken, tests, bs)
    else ([], t :: tests, b :: bs)

/-- The characters of one complete sequence. -/
def ofSequence (bs : List UInt8) : List Char :=
  match Percent.ofUtf8? bs with
  | some s => s.toList
  | none => [replacement]

/-- Read bytes as text; `fuel` bounds their number. -/
def readLossy : Nat → List UInt8 → List Char
  | 0, _ => []
  | _, [] => []
  | fuel + 1, b :: bs =>
    if b < 0x80 then Char.ofUInt8 b :: readLossy fuel bs
    else match continuations b with
      | [] => replacement :: readLossy fuel bs
      | tests =>
        let (taken, missing, rest) := takePassing tests bs
        (if missing.isEmpty then ofSequence (b :: taken) else [replacement]) ++ readLossy fuel rest

def lossy (bs : List UInt8) : String := String.ofList (readLossy bs.length bs)

end AdminConsole.Text

namespace AdminConsole.Base64

/-- The character of a value below 64. -/
def digit (n : Nat) : Char :=
  if n < 26 then Char.ofNat (65 + n)
  else if n < 52 then Char.ofNat (71 + n)
  else if n < 62 then Char.ofNat (n - 4)
  else if n = 62 then '+'
  else '/'

/-- The four digits of a number below 2 to the 24th. -/
def group (n : Nat) : List Char :=
  [digit (n / 262144), digit (n / 4096 % 64), digit (n / 64 % 64), digit (n % 64)]

def encode : List UInt8 → List Char
  | a :: b :: c :: r => group (a.toNat * 65536 + b.toNat * 256 + c.toNat) ++ encode r
  | [a, b] => (group (a.toNat * 65536 + b.toNat * 256)).take 3 ++ ['=']
  | [a] => (group (a.toNat * 65536)).take 2 ++ ['=', '=']
  | [] => []

end AdminConsole.Base64
