/-
# `Url.Domain` — the ASCII form of a domain

Its characters are folded and composed, then it is cut into labels at its
points.  A label with characters outside of ASCII is written with a mark in
front; a label that comes with the mark has to be one that could have been
written so.
-/
import AdminConsole.Text.Composed
import AdminConsole.Url.Domain.Direction
import AdminConsole.Url.Domain.Folding
import AdminConsole.Url.Domain.Joining
import AdminConsole.Url.Punycode

namespace AdminConsole.Url

/-! ## Characters -/

/-- The ASCII characters that no domain holds. -/
def isDeniedInDomain (c : Char) : Bool :=
  c.toNat ≤ 0x20 || c.toNat == 0x7F || "%#/:<>?@[\\]^|".toList.contains c

/-- A text with every character folded, unless one refuses the domain. -/
def foldText? : List Char → Option (List Char)
  | [] => some []
  | c :: r => match foldChar c with
    | .refused => none
    | .image cs => (foldText? r).map (cs ++ ·)

/-- A domain with every character in the form in which domains are compared. -/
def foldDomain? (cs : List Char) : Option (List Char) := do
  let folded ← foldText? cs
  let domain := Text.composed folded
  if domain.any isDeniedInDomain then none else some domain

/-! ## Labels -/

/-- A label of a domain: its characters, and how it is written in ASCII. -/
structure Label where
  chars : List Char
  ascii : List Char
  deriving DecidableEq, Repr

def isAscii (cs : List Char) : Bool := cs.all fun c => c.toNat < 128

/-- The mark of labels that stand for characters outside of ASCII. -/
def labelMark : List Char := ['x', 'n', '-', '-']

/-- How many characters a label outside of ASCII can have. -/
def maxLabelLength : Nat := 1000

/-- How long a label with the mark can be, the mark left out. -/
def maxMarkedLength : Nat := 2000

/-- Whether a label is in the form in which domains are compared. -/
def isFolded (cs : List Char) : Bool := foldDomain? cs == some cs && !cs.contains '.'

/-- The label behind a mark. -/
def readMarked? (rest : List Char) : Option Label :=
  if !isAscii rest || rest.isEmpty || rest.getLast? == some '-' || maxMarkedLength < rest.length then
    none
  else do
    let cs ← Punycode.decode? rest
    if isFolded cs then some ⟨cs, labelMark ++ rest⟩ else none

/-- Read a label of a folded domain. -/
def readLabel? (cs : List Char) : Option Label :=
  match Text.stripStart? labelMark cs with
  | some rest => readMarked? rest
  | none => some ⟨cs, if isAscii cs then cs else labelMark ++ Punycode.encode cs⟩

/-- Whether the characters of a label may stand as they do: it does not begin with a mark on a letter,
and its joiners are in place. -/
def Label.isValid (l : Label) : Bool :=
  isAscii l.chars
    || (!(l.chars.take 1).any Text.isMark && joinersFit [] l.chars
      && l.chars.length ≤ maxLabelLength)

/-! ## Domains -/

def labels? (cs : List Char) : Option (List Label) := do
  let domain ← foldDomain? cs
  let labels ← (Text.splitAll '.' domain).mapM readLabel?
  if labels.all Label.isValid && directionsAgree (labels.map Label.chars) then some labels else none

def asciiDomain? (cs : List Char) : Option (List Char) :=
  (labels? cs).map fun labels => Text.join ['.'] (labels.map Label.ascii)

end AdminConsole.Url
