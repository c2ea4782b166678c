/-
# `Query.Value` — the values of a list's query

A scalar is an integer or a text.  A field holds one scalar or an ordered
sequence of them, and a sequence of one scalar differs from that scalar.
-/
import AdminConsole.Dict
import AdminConsole.Text.Integer
import AdminConsole.Text.Percent
import AdminConsole.Text.Pieces

namespace AdminConsole.Query

/-- A single value: an integer where an integer field read cleanly, else a text. -/
inductive Scalar where
  | int (value : Int)
  | text (value : String)
  deriving DecidableEq, Repr, Inhabited

inductive Value where
  | one (scalar : Scalar)
  | many (scalars : List Scalar)
  deriving DecidableEq, Repr, Inhabited

/-- Filter, sort and page state: the value of every field that has one. -/
abbrev Params := Dict Value

namespace Scalar

def toText : Scalar → String
  | .int n => toString n
  | .text s => s

end Scalar

namespace Value

/-- One part stands for itself, any other number of parts for a sequence. -/
def ofParts : List Scalar → Value
  | [s] => .one s
  | parts => .many parts

def scalars : Value → List Scalar
  | .one s => [s]
  | .many ss => ss

/-- Whether there is nothing to write. -/
def isEmpty : Value → Bool
  | .one _ => false
  | .many ss => ss.isEmpty

/-- The integer that a single scalar is or spells between blanks. -/
def int? : Value → Option Int
  | .one (.int n) => some n
  | .one (.text s) => Text.int64? (Text.trimBlanks s.toList)
  | .many _ => none

def text? : Value → Option String
  | .one s => some s.toText
  | .many _ => none

/-- The percent-encoded scalars with commas between them. -/
def encode (v : Value) : String :=
  Text.joinText "," (v.scalars.map fun s => Percent.encode s.toText)

def append (v w : Value) : Value := .many (v.scalars ++ w.scalars)

end Value

end AdminConsole.Query
