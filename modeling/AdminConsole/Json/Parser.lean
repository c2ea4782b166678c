/-
# `Json.Parser` — reading JSON

A document is one value between blanks, nested less than 128 deep; of two
members of an object under one name the later counts.
-/
import AdminConsole.Json.Value
import AdminConsole.Text.Percent

namespace AdminConsole.Json

/-- The blanks of JSON. -/
def isSpace (c : Char) : Bool := c == ' ' || c == '\n' || c == '\t' || c == '\r'

def skipSpace (cs : List Char) : List Char := cs.dropWhile isSpace

/-! ## Strings -/

/-- The value of four hexadecimal digits, and the rest. -/
def readHex4 : List Char → Option (Nat × List Char)
  | a :: b :: c :: d :: r => do
    let a ← Percent.hexValue? a
    let b ← Percent.hexValue? b
    let c ← Percent.hexValue? c
    let d ← Percent.hexValue? d
    pure (((a * 16 + b) * 16 + c) * 16 + d, r)
  | _ => none

/-- The character of a unit, which must not be half of a pair. -/
def unitChar? (n : Nat) : Option Char :=
  if 0xD800 ≤ n ∧ n < 0xE000 then none else some (Char.ofNat n)

/-- The second half of a pair whose first half was `high`. -/
def readLow (high : Nat) : List Char → Option (Char × List Char)
  | '\\' :: 'u' :: r => do
    let (low, r) ← readHex4 r
    if 0xDC00 ≤ low ∧ low < 0xE000 then
      pure (Char.ofNat (0x10000 + (high - 0xD800) * 1024 + (low - 0xDC00)), r)
    else none
  | _ => none

/-- Read what a backslash stands for. -/
def readEscape : List Char → Option (Char × List Char)
  | '"' :: r => some ('"', r)
  | '\\' :: r => some ('\\', r)
  | '/' :: r => some ('/', r)
  | 'b' :: r => some (Char.ofNat 8, r)
  | 'f' :: r => some (Char.ofNat 12, r)
  | 'n' :: r => some ('\n', r)
  | 'r' :: r => some ('\r', r)
  | 't' :: r => some ('\t', r)
  | 'u' :: r => do
    let (n, r) ← readHex4 r
    if 0xD800 ≤ n ∧ n < 0xDC00 then readLow n r
    else (unitChar? n).map (·, r)
  | _ => none

/-- Read the rest of a string, after its opening quote; `fuel` bounds its length. -/
def readString : Nat → List Char → Option (List Char × List Char)
  | 0, _ => none
  | fuel + 1, cs => match cs with
    | [] => none
    | '"' :: r => some ([], r)
    | '\\' :: r => do
      let (c, r) ← readEscape r
      let (s, r) ← readString fuel r
      pure (c :: s, r)
    | c :: r =>
      if c.toNat < 32 then none
      else (readString fuel r).map fun (s, r) => (c :: s, r)

/-! ## Values -/

/-- A reader of values. -/
abbrev Reader := List Char → Option (Json × List Char)

/-- Read the items of an array after its first bracket and blanks; `fuel` bounds their number. -/
def readItems (value : Reader) : Nat → List Char → Option (List Json × List Char)
  | 0, _ => none
  | fuel + 1, cs => do
    let (j, r) ← value (skipSpace cs)
    match skipSpace r with
    | ',' :: r =>
      let (js, r) ← readItems value fuel r
      pure (j :: js, r)
    | ']' :: r => pure ([j], r)
    | _ => none

def readMember (value : Reader) (cs : List Char) : Option ((String × Json) × List Char) :=
  match skipSpace cs with
  | '"' :: r => do
    let (name, r) ← readString (r.length + 1) r
    match skipSpace r with
    | ':' :: r =>
      let (j, r) ← value (skipSpace r)
      pure ((String.ofList name, j), r)
    | _ => none
  | _ => none

/-- Read the members of an object after its first brace; `fuel` bounds their number. -/
def readMembers (value : Reader) : Nat → List Char → Option (List (String × Json) × List Char)
  | 0, _ => none
  | fuel + 1, cs => do
    let (m, r) ← readMember value cs
    match skipSpace r with
    | ',' :: r =>
      let (ms, r) ← readMembers value fuel r
      pure (m :: ms, r)
    | '\x7d' :: r => pure ([m], r)
    | _ => none

def readArray (value : Reader) (cs : List Char) : Option (Json × List Char) :=
  match skipSpace cs with
  | ']' :: r => some (.array [], r)
  | cs => (readItems value (cs.length + 1) cs).map fun (js, r) => (.array js, r)

def readObject (value : Reader) (cs : List Char) : Option (Json × List Char) :=
  match skipSpace cs with
  | '\x7d' :: r => some (.object [], r)
  | cs => (readMembers value (cs.length + 1) cs).map fun (ms, r) => (sorted ms, r)

/-- Read a value that holds fewer than `depth` levels of arrays and objects. -/
def readValue : Nat → Reader
  | 0, _ => none
  | depth + 1, cs => match cs with
    | 'n' :: 'u' :: 'l' :: 'l' :: r => some (.null, r)
    | 't' :: 'r' :: 'u' :: 'e' :: r => some (.bool true, r)
    | 'f' :: 'a' :: 'l' :: 's' :: 'e' :: r => some (.bool false, r)
    | '"' :: r => (readString (r.length + 1) r).map fun (s, r) => (.string (String.ofList s), r)
    | '[' :: r => readArray (readValue depth) r
    | '\x7b' :: r => readObject (readValue depth) r
    | cs => (Number.read? cs).map fun (n, r) => (.number n, r)

def parseChars? (cs : List Char) : Option Json :=
  match readValue 128 (skipSpace cs) with
  | some (j, r) => if (skipSpace r).isEmpty then some j else none
  | none => none

/-- The value of a document. -/
def parse? (s : String) : Option Json := parseChars? s.toList

end AdminConsole.Json
