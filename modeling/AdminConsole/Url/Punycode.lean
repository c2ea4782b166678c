/-
# `Url.Punycode` — the ASCII form of a label with other characters

The ASCII characters are written first; each other character is written as the
number of positions and code points passed since the one before, in digits of
variable size.  `decode` puts the characters back where they were.
-/
import AdminConsole.Text.Ranges

namespace AdminConsole.Url.Punycode

/-- The digit of a value below 36. -/
def digit (n : Nat) : Char := Char.ofNat (if n < 26 then 97 + n else 22 + n)

/-- The size of the digit at a place. -/
def threshold (k bias : Nat) : Nat := if k ≤ bias then 1 else if bias + 26 ≤ k then 26 else k - bias

/-- The digits of a number from the place `k` on; `fuel` bounds their count. -/
def digits (bias : Nat) : Nat → Nat → Nat → List Char
  | 0, _, _ => []
  | fuel + 1, k, q =>
    let t := threshold k bias
    if q < t then [digit q]
    else digit (t + (q - t) % (36 - t)) :: digits bias fuel (k + 36) ((q - t) / (36 - t))

/-- Divide by 35 while the value is large, and count the divisions. -/
def shrink : Nat → Nat → Nat → Nat × Nat
  | 0, delta, k => (delta, k)
  | fuel + 1, delta, k => if 455 < delta then shrink fuel (delta / 35) (k + 36) else (delta, k)

/-- The bias after a number has been written. -/
def adapt (delta count : Nat) (first : Bool) : Nat :=
  let d := if first then delta / 700 else delta / 2
  let (d, k) := shrink 64 (d + d / count) 0
  k + 36 * d / (d + 38)

/-- What has been written so far. -/
structure State where
  out : List Char
  delta : Nat
  bias : Nat
  handled : Nat

/-- Pass one character of the label while code point `n` is being written. -/
def passChar (basic n : Nat) (s : State) (c : Char) : State :=
  if c.toNat < n then { s with delta := s.delta + 1 }
  else if c.toNat = n then
    { out := s.out ++ digits s.bias 64 36 s.delta
      delta := 0
      bias := adapt s.delta (s.handled + 1) (s.handled == basic)
      handled := s.handled + 1 }
  else s

/-- Write the code points of a list, each wherever it occurs; `last` is the one passed before. -/
def writeAll (label : List Char) (basic : Nat) : List Nat → Nat → State → State
  | [], _, s => s
  | n :: r, last, s =>
    let s := { s with delta := s.delta + (n - last) * (s.handled + 1) }
    let s := label.foldl (passChar basic n) s
    writeAll label basic r (n + 1) { s with delta := s.delta + 1 }

/-- The ASCII form of a label, without the mark in front. -/
def encode (label : List Char) : List Char :=
  let basic := label.filter fun c => c.toNat < 128
  let others := ((label.filter fun c => 128 ≤ c.toNat).map Char.toNat).mergeSort.eraseDups
  let start := if basic.isEmpty then [] else basic ++ ['-']
  (writeAll label basic.length others 128 ⟨start, 0, 72, basic.length⟩).out

/-! ## Reading -/

/-- The value of a digit; capital letters count as small ones. -/
def digitValue? (c : Char) : Option Nat :=
  if 'a' ≤ c ∧ c ≤ 'z' then some (c.toNat - 97)
  else if 'A' ≤ c ∧ c ≤ 'Z' then some (c.toNat - 65)
  else if '0' ≤ c ∧ c ≤ '9' then some (c.toNat - 22)
  else none

/-- What a word of the reader's arithmetic can hold. -/
def isWord (n : Nat) : Bool := n < 4294967296

/-- Read a number from the place `k` on, where a digit weighs `weight`, and add it to `i`. -/
def readNumber? (bias : Nat) : List Char → Nat → Nat → Nat → Option (Nat × List Char)
  | [], _, _, _ => none
  | c :: r, k, weight, i => do
    let d ← digitValue? c
    let i := i + d * weight
    if !isWord i then none
    else if d < threshold k bias then some (i, r)
    else
      let weight := weight * (36 - threshold k bias)
      if isWord weight then readNumber? bias r (k + 36) weight i else none

/-- Insert the characters of all numbers, the next one at code point `n` and place `i` at the
earliest; `fuel` bounds their count. -/
def insertAll? : Nat → Nat → Nat → Nat → List Char → List Char → Option (List Char)
  | _, _, _, _, out, [] => some out
  | 0, _, _, _, _, _ :: _ => none
  | fuel + 1, bias, n, i, out, c :: r => do
    let (j, r) ← readNumber? bias (c :: r) 36 1 i
    let count := out.length + 1
    let n := n + j / count
    if Text.isCharacter n then
      insertAll? fuel (adapt (j - i) count (i == 0)) n (j % count + 1)
        (out.insertIdx (j % count) (Char.ofNat n)) r
    else none

/-- The characters in front of the last hyphen, unless there are none, and those behind it. -/
def splitBasic (cs : List Char) : List Char × List Char :=
  match Text.splitFirst '-' cs.reverse with
  | some (_, []) => ([], cs)
  | some (after, before) => (before.reverse, after.reverse)
  | none => ([], cs)

/-- The label of an ASCII form without its mark. -/
def decode? (cs : List Char) : Option (List Char) :=
  let (basic, digits) := splitBasic cs
  insertAll? digits.length 72 128 0 basic digits

end AdminConsole.Url.Punycode
