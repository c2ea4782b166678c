/-
# `Text.Ranges` — sets of code points and tables over them

They are written as rows of words.  A word of a set is a hexadecimal number, or
two with a hyphen between for a range with both ends included.  A word of a
table of images is a list of numbers with points between; a number and a colon
in front say whose image it is, and without them it is that of the next code
point.
-/
import AdminConsole.Text.Percent
import AdminConsole.Text.Pieces

namespace AdminConsole.Text

/-! ## Words -/

/-- The words of some rows. -/
def rowWords (rows : List String) : List (List Char) := rows.flatMap fun r => splitAll ' ' r.toList

def readHex (cs : List Char) : Nat :=
  cs.foldl (fun n c => 16 * n + (Percent.hexValue? c).getD 0) 0

def readRange (word : List Char) : Nat × Nat :=
  match splitFirst '-' word with
  | some (first, last) => (readHex first, readHex last)
  | none => (readHex word, readHex word)

/-- Whether a number is that of a character. -/
def isCharacter (n : Nat) : Bool := n < 0xD800 || (0xDFFF < n && n < 0x110000)

/-! ## Sets -/

def readRanges (rows : List String) : List (Nat × Nat) := (rowWords rows).map readRange

/-- Whether a code point falls into one of the ranges. -/
def inRanges (ranges : List (Nat × Nat)) (n : Nat) : Bool :=
  ranges.any fun r => r.1 ≤ n && n ≤ r.2

/-! ## Images -/

/-- The numbers of an image. -/
def readImage (word : List Char) : List Nat := (splitAll '.' word).map readHex

/-- Add the image of a word to those before it; `next` is the code point behind theirs. -/
def addImage (read : Nat × List (Nat × List Nat)) (word : List Char) : Nat × List (Nat × List Nat) :=
  let (next, images) := read
  match splitFirst ':' word with
  | some (place, image) => (readHex place + 1, (readHex place, readImage image) :: images)
  | none => (next + 1, (next, readImage word) :: images)

/-- The images of a table, each with its code point. -/
def readImages (rows : List String) : List (Nat × List Nat) :=
  ((rowWords rows).foldl addImage (0, [])).2.reverse

/-! ## Runs -/

/-- Code points at equal steps whose images have the same distances; `target` is that of the first. -/
structure Run where
  first : Nat
  last : Nat
  step : Nat
  target : Nat
  deriving DecidableEq, Repr

namespace Run

/-- Whether a code point is one of a run. -/
def holds (n : Nat) (r : Run) : Bool :=
  r.first ≤ n && n ≤ r.last && (n - r.first) % r.step == 0

/-- The image of a code point of a run. -/
def image (r : Run) (n : Nat) : Nat := r.target + (n - r.first)

/-- A run of a range, `/` and the step if it is not one, `>` and the image of the first. -/
def ofWord (word : List Char) : Run :=
  let (places, target) := (splitFirst '>' word).getD (word, [])
  let (range, step) := (splitFirst '/' places).getD (places, ['1'])
  ⟨(readRange range).1, (readRange range).2, readHex step, readHex target⟩

end Run

/-- The runs of a table. -/
def readRuns (rows : List String) : List Run := (rowWords rows).map Run.ofWord

end AdminConsole.Text
