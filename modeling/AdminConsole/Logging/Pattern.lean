/-
# `Logging.Pattern` — the values that fields of spans are compared with

They are numbers and patterns.  A pattern is a regular expression; what counts
here is only whether it is one.  Its modes say which characters are meant: with
characters of all scripts, as long as nobody says otherwise, there are no
classes by property, no edges of words and no comparison without case, since
these would need tables of all scripts.
-/
import AdminConsole.Text.Integer
import AdminConsole.Text.Letter
import AdminConsole.Text.Pieces

namespace AdminConsole.Logging.Pattern

open AdminConsole.Text

/-! ## Modes -/

/-- The modes in which a pattern is read: whether case is ignored, whether characters of all scripts are
meant or bytes, and whether blanks and comments may stand between the parts. -/
structure Modes where
  ignoreCase : Bool
  allScripts : Bool
  spaced : Bool
  deriving DecidableEq, Repr

namespace Modes

/-- The modes at the start. -/
def usual : Modes := ⟨false, true, false⟩

/-- Switch a mode on or off; the others change nothing here. -/
def switch (on : Bool) (m : Modes) : Char → Modes
  | 'i' => { m with ignoreCase := on }
  | 'u' => { m with allScripts := on }
  | 'x' => { m with spaced := on }
  | _ => m

/-- Switch the modes of a list; those behind a hyphen off. -/
def switchAll (on : Bool) (m : Modes) : List Char → Modes
  | [] => m
  | '-' :: r => switchAll false m r
  | c :: r => switchAll on (m.switch on c) r

/-- Whether letters would have to be compared without case in all scripts. -/
def needsCases (m : Modes) : Bool := m.ignoreCase && m.allScripts

end Modes

/-- Drop blanks and comments; inside a comment everything up to the end of the line. -/
def dropSpace : Bool → List Char → List Char
  | _, [] => []
  | true, c :: r => dropSpace (c != '\n') r
  | false, c :: r =>
    if isBlank c then dropSpace false r else if c = '#' then dropSpace true r else c :: r

/-- What comes next. -/
def Modes.skip (m : Modes) (cs : List Char) : List Char := if m.spaced then dropSpace false cs else cs

/-- What comes next, if anything does. -/
def Modes.skip? (m : Modes) (cs : List Char) : Option (List Char) :=
  match m.skip cs with
  | [] => none
  | rest => some rest

/-! ## Single characters -/

/-- What a character or an escape stands for: a character, also if it is given as a byte, a class of
letters, digits or blanks, the edge of a word, or another place. -/
inductive Part where
  | literal (code : Nat) (byte : Bool)
  | kinds (negated : Bool)
  | edge
  | place
  deriving DecidableEq, Repr

namespace Part

/-- Whether a part can be told in some modes. -/
def fits (m : Modes) : Part → Bool
  | literal code byte => !m.needsCases && (m.allScripts || !byte || code < 0x80)
  | kinds negated => !m.allScripts && !negated
  | edge => !m.allScripts
  | place => true

/-- Whether a part can be told inside a class. -/
def fitsClass (m : Modes) : Part → Bool
  | literal code _ => m.allScripts || code < 0x80
  | kinds negated => !m.allScripts && !negated
  | _ => false

end Part

def readCode? (m : Modes) : Nat → Nat → List Char → Option (Nat × List Char)
  | 0, code, cs => some (code, cs)
  | _ + 1, _, [] => none
  | k + 1, code, c :: r => do
    let d ← Percent.hexValue? c
    readCode? m k (16 * code + d) (m.skip r)

/-- Read a character that is given by its code. -/
def readCoded? (m : Modes) (digits : Nat) (cs : List Char) : Option (Part × List Char) := do
  let (code, rest) ← readCode? m digits 0 (m.skip cs)
  if isCharacter code then some (.literal code (digits == 2), rest) else none

/-- The codes of the characters that have a letter as their name. -/
def namedCode? : Char → Option Nat
  | 'a' => some 7
  | 't' => some 9
  | 'n' => some 10
  | 'v' => some 11
  | 'f' => some 12
  | 'r' => some 13
  | _ => none

/-- Read what follows a backslash. -/
def readEscape? (m : Modes) : List Char → Option (Part × List Char)
  | [] => none
  | c :: r =>
    if c = 'x' then readCoded? m 2 r
    else if c = 'u' then readCoded? m 4 r
    else if c = 'U' then readCoded? m 8 r
    else if "dsw".toList.contains c then some (.kinds false, r)
    else if "DSW".toList.contains c then some (.kinds true, r)
    else if "bB<>".toList.contains c then some (.edge, r)
    else if "Az".toList.contains c then some (.place, r)
    else match namedCode? c with
      | some code => some (.literal code false, r)
      | none => if c.isAlphanum || 0x7F < c.toNat then none else some (.literal c.toNat false, r)

/-! ## Classes -/

/-- The names of classes of ASCII characters. -/
def asciiClasses : List String :=
  ["alnum", "alpha", "ascii", "blank", "cntrl", "digit", "graph", "lower", "print", "punct", "space",
   "upper", "word", "xdigit"]

/-- Read a named class behind its bracket: whether it is negated, and what follows. -/
def readNamedClass? : List Char → Option (Bool × List Char)
  | ':' :: r =>
    let (negated, r) := match r with
      | '^' :: r => (true, r)
      | r => (false, r)
    match splitFirst ':' r with
    | some (name, ']' :: rest) =>
      if asciiClasses.contains (String.ofList name) then some (negated, rest) else none
    | _ => none
  | _ => none

/-- Read the hyphens at the front of a class. -/
def dropHyphens (m : Modes) : List Char → List Char
  | '-' :: r => dropHyphens m r
  | cs => if m.spaced then match cs with
      | c :: r => if isBlank c then dropHyphens m r else c :: r
      | [] => []
    else cs

/-- Read the beginning of a class behind its bracket: a mark of negation, hyphens, or a bracket that
stands for itself. -/
def openClass? (m : Modes) (cs : List Char) : Option (List Char) := do
  if m.needsCases then none
  let cs ← m.skip? cs
  let cs ← match cs with
    | '^' :: r => if m.allScripts then m.skip? r else none
    | cs => some cs
  match cs with
  | '-' :: _ => m.skip? (dropHyphens m cs)
  | ']' :: r => m.skip? r
  | cs => some cs

def readMember? (m : Modes) : List Char → Option (Part × List Char)
  | [] => none
  | '\\' :: r => readEscape? m r
  | c :: r => some (.literal c.toNat false, r)

/-- Whether a hyphen stands between the ends of a range, given what follows it. -/
def isRangeSign (m : Modes) (cs : List Char) : Bool :=
  match m.skip cs with
  | ']' :: _ => false
  | '-' :: _ => false
  | _ => true

/-- Read a member of a class, or a range. -/
def readMembers? (m : Modes) (cs : List Char) : Option (List Char) := do
  let (first, rest) ← readMember? m cs
  let rest ← m.skip? rest
  if !first.fitsClass m then none
  else match rest with
    | '-' :: r =>
      if !isRangeSign m r then some rest
      else do
        let (last, rest) ← readMember? m (← m.skip? r)
        match first, last with
        | .literal a _, .literal b _ => if a ≤ b && last.fitsClass m then some rest else none
        | _, _ => none
    | _ => some rest

/-- Read a class up to its end; `depth` counts the brackets that are open, `fuel` bounds the steps. -/
def readClass? (m : Modes) : Nat → Nat → List Char → Option (List Char)
  | 0, _, _ => none
  | fuel + 1, depth, cs =>
    match m.skip cs with
    | [] => none
    | '[' :: r => match readNamedClass? r with
      | some (negated, rest) =>
        if negated && !m.allScripts then none else readClass? m fuel depth rest
      | none => (openClass? m r).bind (readClass? m fuel (depth + 1))
    | ']' :: r => if depth ≤ 1 then some r else readClass? m fuel (depth - 1) r
    | '&' :: '&' :: r => readClass? m fuel depth r
    | '-' :: '-' :: r => readClass? m fuel depth r
    | '~' :: '~' :: r => readClass? m fuel depth r
    | cs => (readMembers? m cs).bind (readClass? m fuel depth)

/-! ## Groups -/

/-- What has been read of a pattern: the modes now and those around each open group, whether something
stands there that can be repeated, and the names of groups. -/
structure Reading where
  modes : Modes
  around : List Modes
  repeatable : Bool
  names : List (List Char)
  deriving DecidableEq, Repr

namespace Reading

/-- Before anything was read. -/
def start : Reading := ⟨Modes.usual, [], false, []⟩

def openGroup (s : Reading) (modes : Modes) : Reading :=
  { s with modes, around := s.modes :: s.around, repeatable := false }

end Reading

def isGroupName : List Char → Bool
  | [] => false
  | c :: r => (c == '_' || isLetter c)
    && r.all fun c => c == '_' || c == '.' || c == '[' || c == ']' || isLetterOrNumber c

def readNamed? (s : Reading) (cs : List Char) : Option (Reading × List Char) :=
  match splitFirst '>' cs with
  | some (name, rest) =>
    if isGroupName name && !s.names.contains name then
      some ({ s.openGroup s.modes with names := name :: s.names }, rest)
    else none
  | none => none

/-- Whether a text is a list of modes: none twice, and something behind a hyphen. -/
def isModeList (cs : List Char) : Bool :=
  cs.all (fun c => "imsUuRx-".toList.contains c) && cs.eraseDups == cs && cs.getLast? != some '-'

/-- Read modes, for what follows or for a group. -/
def readModes? (s : Reading) (cs : List Char) : Option (Reading × List Char) :=
  let listed := cs.takeWhile fun c => c != ':' && c != ')'
  if !isModeList listed then none
  else
    let modes := s.modes.switchAll true listed
    match cs.drop listed.length with
    | ':' :: r => some (s.openGroup modes, r)
    | ')' :: r =>
      if listed.isEmpty then none else some ({ s with modes, repeatable := false }, r)
    | _ => none

/-- Read what follows an opening parenthesis. -/
def readGroup? (s : Reading) (cs : List Char) : Option (Reading × List Char) :=
  match s.modes.skip cs with
  | '?' :: '=' :: _ => none
  | '?' :: '!' :: _ => none
  | '?' :: '<' :: '=' :: _ => none
  | '?' :: '<' :: '!' :: _ => none
  | '?' :: 'P' :: '<' :: r => readNamed? s r
  | '?' :: '<' :: r => readNamed? s r
  | '?' :: r => readModes? s r
  | r => some (s.openGroup s.modes, r)

/-! ## Whole patterns -/

/-- Go on behind something that can be repeated, unless nothing was read. -/
def Reading.passing (s : Reading) (rest : Option (List Char)) : Option (Reading × List Char) :=
  rest.map fun r => ({ s with repeatable := true }, r)

/-- Go on behind a part, if it can be told. -/
def Reading.passPart (s : Reading) (read : Option (Part × List Char)) :
    Option (Reading × List Char) := do
  let (part, rest) ← read
  if part.fits s.modes then s.passing (some rest) else none

/-- A sign of repetition may be followed by a mark that asks for few repetitions. -/
def dropLazy : List Char → List Char
  | '?' :: r => r
  | cs => cs

/-- Read one step of a pattern. -/
def readStep? (s : Reading) : List Char → Option (Reading × List Char)
  | [] => some (s, [])
  | c :: r =>
    if c = '(' then readGroup? s r
    else if c = ')' then match s.around with
      | [] => none
      | modes :: around => some ({ s with modes, around, repeatable := true }, r)
    else if c = '|' then some ({ s with repeatable := false }, r)
    else if c = '[' then
      s.passing ((openClass? s.modes r).bind (readClass? s.modes (r.length + 1) 1))
    else if c = '?' || c = '*' || c = '+' then
      if s.repeatable then some (s, dropLazy r) else none
    else if c = '\x7b' then none
    else if c = '\\' then s.passPart (readEscape? s.modes r)
    else if c = '.' then if s.modes.allScripts then s.passing (some r) else none
    else if c = '^' || c = '$' then s.passing (some r)
    else s.passPart (some (.literal c.toNat false, r))

def readAll? : Nat → Reading → List Char → Option Reading
  | 0, s, [] => some s
  | 0, _, _ :: _ => none
  | fuel + 1, s, cs =>
    match s.modes.skip cs with
    | [] => some s
    | cs => do
      let (s, rest) ← readStep? s cs
      readAll? fuel s rest

def isPattern (cs : List Char) : Bool :=
  match readAll? cs.length Reading.start cs with
  | some s => s.around.isEmpty
  | none => false

/-! ## Numbers -/

/-- Whether a text is the exponent of a number, or nothing. -/
def isExponent : List Char → Bool
  | [] => true
  | c :: r =>
    let digits := match r with
      | '+' :: d => d
      | '-' :: d => d
      | d => d
    c.toLower == 'e' && !digits.isEmpty && digits.all Char.isDigit

/-- Whether a text is a number without a sign. -/
def isNumber (cs : List Char) : Bool :=
  let whole := cs.takeWhile Char.isDigit
  let rest := cs.drop whole.length
  let (places, rest) := match rest with
    | '.' :: r => (r.takeWhile Char.isDigit, r.dropWhile Char.isDigit)
    | r => ([], r)
  (!(whole ++ places).isEmpty && isExponent rest)
    || ["inf", "infinity", "nan"].contains (lower (String.ofList cs))

/-- Whether a text can be compared with values: a pattern, or a number with a sign in front, which would
be no pattern. -/
def isComparable (cs : List Char) : Bool :=
  isPattern cs || (match cs with
    | '+' :: r => isNumber r
    | _ => false)

end AdminConsole.Logging.Pattern
