/-
# `Text.Percent` — percent-encoding

`encode` writes every byte of the UTF-8 form that is not unreserved as `%` and
two capital hexadecimal digits.  `decodeBytes` reads such triples back and
leaves any other `%` as it is; a `+` stands for itself.
-/

namespace AdminConsole.Percent

/-- The UTF-8 form of a list of characters. -/
def utf8 (cs : List Char) : List UInt8 := cs.flatMap String.utf8EncodeChar

/-- The text with the given UTF-8 form, if there is one. -/
def ofUtf8? (bs : List UInt8) : Option String := String.fromUTF8? ⟨bs.toArray⟩

/-- The capital hexadecimal digit of a value below sixteen. -/
def hexDigit (n : Nat) : Char := Char.ofNat (if n < 10 then 48 + n else 55 + n)

/-- The value of a hexadecimal digit in either case. -/
def hexValue? (c : Char) : Option Nat :=
  if '0' ≤ c ∧ c ≤ '9' then some (c.toNat - 48)
  else if 'A' ≤ c ∧ c ≤ 'F' then some (c.toNat - 55)
  else if 'a' ≤ c ∧ c ≤ 'f' then some (c.toNat - 87)
  else none

/-- `%` and the two digits of a byte. -/
def escape (b : UInt8) : List Char :=
  ['%', hexDigit (b.toNat / 16), hexDigit (b.toNat % 16)]

/-- Letters, digits and `-` `_` `.` `~`. -/
def isUnreserved (c : Char) : Bool :=
  c.isAlphanum || c == '-' || c == '_' || c == '.' || c == '~'

/-- A byte as itself if `keep` allows its character, else escaped. -/
def encodeByte (keep : Char → Bool) (b : UInt8) : List Char :=
  if b < 128 ∧ keep (Char.ofUInt8 b) then [Char.ofUInt8 b] else escape b

/-- Escape every byte whose character is not kept. -/
def encodeWith (keep : Char → Bool) (cs : List Char) : List Char :=
  (utf8 cs).flatMap (encodeByte keep)

/-- A text in which only unreserved characters stand for themselves. -/
def encode (s : String) : String := String.ofList (encodeWith isUnreserved s.toList)

/-- The bytes that a text stands for. -/
def decodeBytes : List Char → List UInt8
  | '%' :: a :: b :: r =>
    match hexValue? a, hexValue? b with
    | some x, some y => UInt8.ofNat (16 * x + y) :: decodeBytes r
    | _, _ => 37 :: decodeBytes (a :: b :: r)
  | c :: r => String.utf8EncodeChar c ++ decodeBytes r
  | [] => []

/-- The text that a component stands for; one whose bytes are no UTF-8 stands for itself. -/
def decode (cs : List Char) : List Char :=
  match ofUtf8? (decodeBytes cs) with
  | some s => s.toList
  | none => cs

end AdminConsole.Percent
