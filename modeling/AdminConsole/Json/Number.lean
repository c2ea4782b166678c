/-
# `Json.Number` — the numbers of JSON

Whole numbers between `-2 ^ 63` and `2 ^ 64 - 1` without fraction and exponent
are integers; every other number is a double.  A double is read from at most 64
bits of digits, further digits being dropped, and is scaled by a power of ten in
one rounded step.
-/
import AdminConsole.Json.Double
import AdminConsole.Text.Integer

namespace AdminConsole.Json

/-- A number: an integer of 64 bits, signed or not, or a double. -/
inductive Number where
  | int (value : Int)
  | double (value : Double)
  deriving DecidableEq, Repr

namespace Number

def toText : Number → String
  | .int n => toString n
  | .double d => d.toText

/-! ## Reading -/

/-- The digits at the front of a text, and the rest. -/
def spanDigits (cs : List Char) : List Nat × List Char :=
  ((cs.takeWhile Char.isDigit).map fun c => c.toNat - 48, cs.dropWhile Char.isDigit)

/-- Take up digits while the value stays below `2 ^ 64`, and count those left over. -/
def takeUp : Nat → List Nat → Nat × Nat
  | value, [] => (value, 0)
  | value, d :: r =>
    if 10 * value + d < Nat.pow 2 64 then takeUp (10 * value + d) r else (value, (d :: r).length)

/-- The power of ten as the nearest double. -/
def powerOfTen (n : Nat) : Double := (Double.ofNat? (Nat.pow 10 n)).getD (Double.zero false)

/-- The largest power of ten that is a double. -/
def largestPower : Nat := 308

/-- Divide by the largest power of ten a number of times, or until nothing is left. -/
def divideBlocks (d : Double) : Nat → Double
  | 0 => d
  | n + 1 =>
    if d.isZero then d
    else divideBlocks ((d.div? (powerOfTen largestPower)).getD (Double.zero false)) n

/-- Scale a magnitude down by a power of ten, in blocks if the power is large. -/
def scaleDown (d : Double) (power : Nat) : Double :=
  let blocks := (power - 1) / largestPower
  let d := divideBlocks d blocks
  if d.isZero then d
  else (d.div? (powerOfTen (power - blocks * largestPower))).getD (Double.zero false)

/-- Scale a magnitude by a power of ten; nothing if the result is too large. -/
def scale? (d : Double) (exponent : Int) : Option Double :=
  if exponent < 0 then some (scaleDown d exponent.natAbs)
  else if exponent.natAbs ≤ largestPower then d.mul? (powerOfTen exponent.natAbs)
  else if d.isZero then some d
  else none

/-- The double with the given sign, digits and power of ten. -/
def ofParts? (negative : Bool) (significand : Nat) (exponent : Int) : Option Number := do
  let d ← Double.ofNat? significand
  let d ← scale? d exponent
  pure (.double { d with negative })

/-- The largest power that is told apart from those beyond it. -/
def maxPower : Int := 2147483647

def readExponent (negative : Bool) (significand : Nat) (start : Int) (cs : List Char) :
    Option (Number × List Char) :=
  let (down, cs) := match cs with
    | '+' :: r => (false, r)
    | '-' :: r => (true, r)
    | r => (false, r)
  match spanDigits cs with
  | ([], _) => none
  | (ds, rest) =>
    let power : Int := (ds.foldl (fun n d => 10 * n + d) 0 : Nat)
    if maxPower < power then
      if significand = 0 || down then some (.double (Double.zero negative), rest) else none
    else
      (ofParts? negative significand (if down then start - power else start + power)).map (·, rest)

/-- Read what follows the digits of a double: an exponent or nothing. -/
def readTail (negative : Bool) (significand : Nat) (exponent : Int) :
    List Char → Option (Number × List Char)
  | 'e' :: r => readExponent negative significand exponent r
  | 'E' :: r => readExponent negative significand exponent r
  | cs => (ofParts? negative significand exponent).map (·, cs)

/-- Read the digits behind a point. -/
def readFraction (negative : Bool) (significand : Nat) (exponent : Int) (cs : List Char) :
    Option (Number × List Char) :=
  match spanDigits cs with
  | ([], _) => none
  | (ds, rest) =>
    let (value, dropped) := takeUp significand ds
    readTail negative value (exponent - ((ds.length - dropped : Nat) : Int)) rest

/-- A whole number below `2 ^ 64` with its sign. -/
def ofWhole (negative : Bool) (n : Nat) : Option Number :=
  if negative then
    if 0 < n ∧ n ≤ Nat.pow 2 63 then some (.int (-(n : Int)))
    else (Double.ofNat? n).map fun d => .double { d with negative := true }
  else some (.int n)

/-- Read a number without its sign. -/
def readUnsigned (negative : Bool) (cs : List Char) : Option (Number × List Char) :=
  match spanDigits cs with
  | ([], _) => none
  | (0 :: _ :: _, _) => none
  | (ds, rest) =>
    let (value, dropped) := takeUp 0 ds
    match rest with
    | '.' :: r => readFraction negative value dropped r
    | 'e' :: r => readExponent negative value dropped r
    | 'E' :: r => readExponent negative value dropped r
    | _ =>
      if dropped = 0 then (ofWhole negative value).map (·, rest)
      else (ofParts? negative value dropped).map (·, rest)

/-- Read a number from the front of a text. -/
def read? : List Char → Option (Number × List Char)
  | '-' :: r => readUnsigned true r
  | cs => readUnsigned false cs

end Number

end AdminConsole.Json
