/-
# `Text.Integer` — integers in decimal digits, read within bounds

A numeral is an optional sign and at least one digit; a minus sign is accepted
only where negative values exist.  Reading goes digit by digit, so a value out
of bounds is noticed before a later character that is no digit.
-/

namespace AdminConsole.Text

/-- Why a text is no integer within the bounds. -/
inductive IntegerFault where
  | empty
  | invalidDigit
  | tooLarge
  | tooSmall
  deriving DecidableEq, Repr

def IntegerFault.message : IntegerFault → String
  | .empty => "cannot parse integer from empty string"
  | .invalidDigit => "invalid digit found in string"
  | .tooLarge => "number too large to fit in target type"
  | .tooSmall => "number too small to fit in target type"

def digitValue? (c : Char) : Option Nat :=
  if '0' ≤ c ∧ c ≤ '9' then some (c.toNat - '0'.toNat) else none

/-- Read digits on top of `value`, which may not pass `hi`. -/
def readUp (hi : Int) (value : Int) : List Char → Except IntegerFault Int
  | [] => .ok value
  | c :: r => match digitValue? c with
    | none => .error .invalidDigit
    | some d =>
      let next := value * 10 + d
      if hi < next then .error .tooLarge else readUp hi next r

/-- Read digits below `value`, which may not pass `lo`. -/
def readDown (lo : Int) (value : Int) : List Char → Except IntegerFault Int
  | [] => .ok value
  | c :: r => match digitValue? c with
    | none => .error .invalidDigit
    | some d =>
      let next := value * 10 - d
      if next < lo then .error .tooSmall else readDown lo next r

/-- Read an integer between `lo` and `hi`. -/
def readInteger (lo hi : Int) : List Char → Except IntegerFault Int
  | [] => .error .empty
  | ['+'] => .error .invalidDigit
  | ['-'] => .error .invalidDigit
  | '+' :: r => readUp hi 0 r
  | '-' :: r => if lo < 0 then readDown lo 0 r else .error .invalidDigit
  | cs => readUp hi 0 cs

/-- Bounds of a signed integer of 64 bits. -/
def minInt64 : Int := -9223372036854775808
def maxInt64 : Int := 9223372036854775807
def maxNat64 : Int := 18446744073709551615
def maxNat32 : Int := 4294967295

def readInt64 (s : String) : Except IntegerFault Int := readInteger minInt64 maxInt64 s.toList

def int64? (cs : List Char) : Option Int := (readInteger minInt64 maxInt64 cs).toOption

end AdminConsole.Text
