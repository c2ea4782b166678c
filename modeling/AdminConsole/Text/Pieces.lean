/-
# `Text.Pieces` — blanks, and texts cut at separators

A character is blank when it has the Unicode property `White_Space`; `trim`
drops the blanks at both ends of a text and keeps those inside.

`splitAll` cuts at every occurrence of a character and always gives one piece
more than there are separators; `splitFirst` cuts at the first occurrence only.
`join` puts pieces together again.
-/

namespace AdminConsole.Text

/-! ## Blanks -/

/-- The characters with the Unicode property `White_Space`. -/
def isBlank (c : Char) : Bool :=
  let n := c.toNat
  (9 ≤ n && n ≤ 13) || n == 0x20 || n == 0x85 || n == 0xA0 || n == 0x1680
    || (0x2000 ≤ n && n ≤ 0x200A) || n == 0x2028 || n == 0x2029 || n == 0x202F
    || n == 0x205F || n == 0x3000

/-- Drop the characters of a class at the end of a list. -/
def dropEnd (p : Char → Bool) (cs : List Char) : List Char :=
  (cs.reverse.dropWhile p).reverse

/-- Drop the characters of a class at both ends of a list. -/
def trimBy (p : Char → Bool) (cs : List Char) : List Char :=
  dropEnd p (cs.dropWhile p)

/-- Drop the blanks at both ends of a list. -/
def trimBlanks (cs : List Char) : List Char := trimBy isBlank cs

def trim (s : String) : String := String.ofList (trimBlanks s.toList)

def trimEnd (s : String) : String := String.ofList (dropEnd isBlank s.toList)

/-- A text without the given character at its ends. -/
def trimChar (c : Char) (s : String) : String := String.ofList (trimBy (· == c) s.toList)

def isAllBlank (s : String) : Bool := s.toList.all isBlank

/-! ## Capital letters -/

/-- A text with the letters `A` to `Z` in lower case and all else unchanged. -/
def lower (s : String) : String := String.ofList (s.toList.map Char.toLower)

/-! ## Pieces -/

/-- The pieces between the occurrences of `sep`; an empty text is one empty piece. -/
def splitAll (sep : Char) : List Char → List (List Char)
  | [] => [[]]
  | c :: r =>
    if c = sep then [] :: splitAll sep r
    else match splitAll sep r with
      | [] => [[c]]
      | p :: ps => (c :: p) :: ps

/-- The parts before and after the first occurrence of `sep`. -/
def splitFirst (sep : Char) : List Char → Option (List Char × List Char)
  | [] => none
  | c :: r =>
    if c = sep then some ([], r)
    else (splitFirst sep r).map fun (before, after) => (c :: before, after)

/-- Pieces with `sep` between neighbours. -/
def join (sep : List Char) : List (List Char) → List Char
  | [] => []
  | [p] => p
  | p :: q :: r => p ++ sep ++ join sep (q :: r)

/-- The rest of a text that begins with `start`. -/
def stripStart? : List Char → List Char → Option (List Char)
  | [], cs => some cs
  | _ :: _, [] => none
  | s :: start, c :: cs => if s = c then stripStart? start cs else none

def endsWith (tail cs : List Char) : Bool := (stripStart? tail.reverse cs.reverse).isSome

/-- The characters in front of the first blank line. -/
def untilBlankLine : List Char → List Char
  | '\n' :: '\n' :: _ => []
  | c :: r => c :: untilBlankLine r
  | [] => []

/-- A text up to its first blank line. -/
def firstParagraph (s : String) : String := String.ofList (untilBlankLine s.toList)

/-- A line without a carriage return at its end. -/
def dropReturn (cs : List Char) : List Char :=
  if cs.getLast? = some '\r' then cs.dropLast else cs

/-- The lines of a text; an end of line at its end starts no further line, and a carriage return in
front of an end of line belongs to it. -/
def lines (s : String) : List String :=
  let pieces := splitAll '\n' s.toList
  let last := (pieces.getLast?.getD [])
  let ended := pieces.dropLast.map dropReturn
  (if last.isEmpty then ended else ended ++ [last]).map String.ofList

/-- Texts with `sep` between neighbours. -/
def joinText (sep : String) (parts : List String) : String :=
  String.ofList (join sep.toList (parts.map String.toList))

def replaceChar (old new : Char) (s : String) : String :=
  String.ofList (s.toList.map fun c => if c = old then new else c)

end AdminConsole.Text
