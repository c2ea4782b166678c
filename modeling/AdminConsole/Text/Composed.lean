/-
# `Text.Composed` — the composed form of a text

Marks are in the order of their classes, and each letter has taken in the marks
with which it makes one character.  A text is taken apart first, then its marks
are ordered, then it is put together again.  Korean syllables follow a rule of
their own.
-/
import AdminConsole.Text.Composite
import AdminConsole.Text.Mark

namespace AdminConsole.Text

/-! ## Korean syllables -/

namespace Syllable

def first : Nat := 0xAC00
def firstLead : Nat := 0x1100
def firstVowel : Nat := 0x1161
/-- What stands in front of the first closing consonant. -/
def noClose : Nat := 0x11A7
/-- How many leading consonants there are. -/
def leads : Nat := 19
/-- How many vowels there are. -/
def vowels : Nat := 21
/-- How many closing consonants there are, none counted as one. -/
def closes : Nat := 28
/-- How many syllables there are. -/
def count : Nat := leads * vowels * closes

/-- Whether a code point is a syllable. -/
def holds (n : Nat) : Bool := first ≤ n && n < first + count

/-- The letters of a syllable. -/
def letters (n : Nat) : List Nat :=
  let i := n - first
  let front := [firstLead + i / (vowels * closes), firstVowel + i % (vowels * closes) / closes]
  if i % closes = 0 then front else front ++ [noClose + i % closes]

/-- The syllable of two letters, or of a syllable without a closing consonant and such a one. -/
def join? (a b : Nat) : Option Nat :=
  if firstLead ≤ a ∧ a < firstLead + leads ∧ firstVowel ≤ b ∧ b < firstVowel + vowels then
    some (first + ((a - firstLead) * vowels + (b - firstVowel)) * closes)
  else if holds a ∧ (a - first) % closes = 0 ∧ noClose < b ∧ b < noClose + closes then
    some (a + (b - noClose))
  else none

end Syllable

/-! ## Taking apart -/

/-- How often a letter can be taken apart. -/
def maxDepth : Nat := 4

/-- The letter and the marks of a code point, taken apart `fuel` times at most. -/
def takeApart : Nat → Nat → List Nat
  | 0, n => [n]
  | fuel + 1, n =>
    if Syllable.holds n then Syllable.letters n
    else match parts? n with
      | some (a, b) => takeApart fuel a ++ [b]
      | none => [n]

/-! ## Order -/

/-- Put a mark into its place among those before it, the last of them given first. -/
def insertMark (c : Char) : List Char → List Char
  | [] => [c]
  | d :: r => if markClass c < markClass d then d :: insertMark c r else c :: d :: r

/-- Add a character to a text in order, given from its end. -/
def addInOrder (text : List Char) (c : Char) : List Char :=
  if markClass c = 0 then c :: text else insertMark c text

def orderMarks (cs : List Char) : List Char := (cs.foldl addInOrder []).reverse

/-! ## Putting together -/

/-- The character of two. -/
def joinPair? (a b : Char) : Option Char :=
  match Syllable.join? a.toNat b.toNat with
  | some n => some (Char.ofNat n)
  | none => (composite? a.toNat b.toNat).map Char.ofNat

/-- Whether a character can reach the letter past the marks between, the last of them given first:
there are none, or theirs are of lower classes. -/
def reaches (between : List Char) (c : Char) : Bool :=
  match between with
  | [] => true
  | b :: _ => markClass b < markClass c

/-- Put together a letter, the marks that stay on it, the last given first, and what follows. -/
def putTogether (letter : Char) (between : List Char) : List Char → List Char
  | [] => letter :: between.reverse
  | c :: r =>
    match if reaches between c then joinPair? letter c else none with
    | some joined => putTogether joined between r
    | none =>
      if markClass c = 0 then letter :: between.reverse ++ putTogether c [] r
      else putTogether letter (c :: between) r

/-- Put a text together; marks in front of its first letter stay as they are. -/
def joinMarks : List Char → List Char
  | [] => []
  | c :: r => if markClass c = 0 then putTogether c [] r else c :: joinMarks r

/-- The composed form of a text. -/
def composed (cs : List Char) : List Char :=
  joinMarks (orderMarks (cs.flatMap fun c => (takeApart maxDepth c.toNat).map Char.ofNat))

end AdminConsole.Text
