/-
# `Json.Double` — floating-point numbers of 64 bits, held exactly

A number is a sign and `mantissa * 2 ^ exponent`, where the mantissa has 53 bits
unless the exponent is the least one.  Rounding goes to the nearest such number
and, of two equally near, to the one with the even mantissa.

`shortest` gives the decimal digits of a number: the fewest that no other number
is nearer to and, among those, the nearest.
-/

namespace AdminConsole.Json

/-- A finite floating-point number of 64 bits. -/
structure Double where
  negative : Bool
  mantissa : Nat
  exponent : Int
  deriving DecidableEq, Repr

namespace Double

/-- The least exponent, that of the numbers nearest to zero. -/
def minExponent : Int := -1074
/-- The exponent of the largest numbers. -/
def maxExponent : Int := 971

def zero (negative : Bool) : Double := ⟨negative, 0, minExponent⟩

def isZero (d : Double) : Bool := d.mantissa == 0

/-! ## Rounding -/

/-- `n / d` to the nearest integer, a half to the even one. -/
def divideToEven (n d : Nat) : Nat :=
  let q := n / d
  let r := n % d
  if d < 2 * r then q + 1 else if 2 * r < d then q else if q % 2 = 0 then q else q + 1

/-- The numerator of `n / d` in units of `2 ^ e`. -/
def scaleNum (n : Nat) (e : Int) : Nat := n * Nat.pow 2 (-e).toNat
/-- The denominator of `n / d` in units of `2 ^ e`. -/
def scaleDen (d : Nat) (e : Int) : Nat := d * Nat.pow 2 e.toNat

/-- The exponent at which `n / d` has a mantissa of 53 bits, or the least one. -/
def exponentOf (n d : Nat) : Int :=
  let e : Int := max minExponent ((n.log2 : Int) - (d.log2 : Int) - 52)
  if e = minExponent then e
  else if scaleNum n e / scaleDen d e < Nat.pow 2 52 then e - 1 else e

/-- The number nearest to `n / d`, unless that lies beyond the largest one. -/
def ofRatio? (negative : Bool) (n d : Nat) : Option Double :=
  let e := exponentOf n d
  let m := divideToEven (scaleNum n e) (scaleDen d e)
  let (m, e) := if m = Nat.pow 2 53 then (Nat.pow 2 52, e + 1) else (m, e)
  if maxExponent < e then none else some ⟨negative, m, e⟩

/-- The numerator of the number's magnitude. -/
def num (d : Double) : Nat := scaleDen d.mantissa d.exponent
/-- The denominator of the number's magnitude. -/
def den (d : Double) : Nat := scaleNum 1 d.exponent

def mul? (a b : Double) : Option Double := ofRatio? false (a.num * b.num) (a.den * b.den)
def div? (a b : Double) : Option Double := ofRatio? false (a.num * b.den) (a.den * b.num)

def ofNat? (n : Nat) : Option Double := ofRatio? false n 1

/-! ## Shortest digits -/

/-- How many places `n / d`, which is below one, has to be shifted to reach one tenth. -/
def leadingZeros (d : Nat) : Nat → Nat → Nat
  | 0, _ => 0
  | fuel + 1, n => if d ≤ n * 10 then 0 else leadingZeros d fuel (n * 10) + 1

/-- The `p` with `10 ^ (p - 1) ≤ n / d < 10 ^ p`. -/
def decimalPoint (n d : Nat) : Int :=
  if d ≤ n then ((toString (n / d)).length : Int) else -((leadingZeros d 400 n : Nat) : Int)

/-- Whether the decimal `c * 10 ^ k` rounds to the number. -/
def readsBack (x : Double) (c : Nat) (k : Int) : Bool :=
  let low := if x.mantissa = Nat.pow 2 52 ∧ x.exponent ≠ minExponent then 4 * x.mantissa - 1
    else 4 * x.mantissa - 2
  let high := 4 * x.mantissa + 2
  let e := x.exponent - 2
  let at10 := c * Nat.pow 10 k.toNat * Nat.pow 2 (-e).toNat
  let at2 := fun (n : Nat) => n * Nat.pow 2 e.toNat * Nat.pow 10 (-k).toNat
  if x.mantissa % 2 = 0 then at2 low ≤ at10 && at10 ≤ at2 high
  else at2 low < at10 && at10 < at2 high

/-- The better of the two neighbours on the grid of `10 ^ k`, if one reads back. -/
def neighbour? (x : Double) (k : Int) : Option Nat :=
  let n := x.num * Nat.pow 10 (-k).toNat
  let d := x.den * Nat.pow 10 k.toNat
  let below := n / d
  let nearest := divideToEven n d
  let other := if nearest = below then below + 1 else below
  if readsBack x nearest k then some nearest
  else if readsBack x other k then some other
  else none

/-- Try the grids of one digit, two digits and so on. -/
def searchDigits (x : Double) (point : Int) : Nat → Nat → Nat × Int
  | 0, tried => (neighbour? x (point - tried - 1) |>.getD 0, point - tried - 1)
  | fuel + 1, tried =>
    match neighbour? x (point - tried - 1) with
    | some c => (c, point - tried - 1)
    | none => searchDigits x point fuel (tried + 1)

/-- Move the zeros at the end of the digits into the exponent. -/
def stripZeros : Nat → Nat → Int → Nat × Int
  | 0, c, k => (c, k)
  | fuel + 1, c, k => if c ≠ 0 ∧ c % 10 = 0 then stripZeros fuel (c / 10) (k + 1) else (c, k)

/-- The shortest digits `c` and the exponent `k` with which `c * 10 ^ k` reads back. -/
def shortest (x : Double) : Nat × Int :=
  if x.mantissa = 0 then (0, 0)
  else
    let (c, k) := searchDigits x (decimalPoint x.num x.den) 16 0
    stripZeros 20 c k

/-! ## Text -/

/-- An exponent with its sign. -/
def exponentText (e : Int) : String := "e" ++ (if e < 0 then "" else "+") ++ toString e

/-- Digits and exponent as text: positional when the point falls within sixteen digits or at most
four zeros behind it, else with an exponent; there is always a point or an exponent. -/
def layout (digits : String) (k : Int) : String :=
  let length : Int := digits.length
  let point := length + k
  let zeros := fun (n : Int) => String.ofList (List.replicate n.toNat '0')
  if 0 ≤ k && point ≤ 16 then digits ++ zeros k ++ ".0"
  else if 0 < point && point ≤ 16 then
    String.ofList (digits.toList.take point.toNat) ++ "."
      ++ String.ofList (digits.toList.drop point.toNat)
  else if -5 < point && point ≤ 0 then "0." ++ zeros (-point) ++ digits
  else if length = 1 then digits ++ exponentText (point - 1)
  else String.ofList (digits.toList.take 1) ++ "." ++ String.ofList (digits.toList.drop 1)
    ++ exponentText (point - 1)

def toText (x : Double) : String :=
  let (c, k) := x.shortest
  (if x.negative then "-" else "") ++ layout (toString c) k

end Double

end AdminConsole.Json
