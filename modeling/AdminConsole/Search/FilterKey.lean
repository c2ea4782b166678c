/-
# `Search.FilterKey` — filter keys `[or__][not__]field[__lookup]`

The two marks are taken off once and in this order; then the key is cut at its
last `__`, if a field remains in front and a lookup's name follows.
-/
import AdminConsole.Search.Lookup
import AdminConsole.Text.Pieces

namespace AdminConsole.Search

/-- A filter key taken apart. -/
structure FilterKey where
  either : Bool
  negated : Bool
  field : String
  lookup : Option Lookup
  deriving DecidableEq, Repr

namespace FilterKey

/-- The mark of a filter that is one alternative among others. -/
def eitherMark : String := "or__"
/-- The mark of a filter that excludes its matches. -/
def negatedMark : String := "not__"
/-- What stands between a field and its lookup. -/
def separator : String := "__"

/-- Take a mark off the front of a key, and say whether it was there. -/
def takeMark (mark : String) (cs : List Char) : Bool × List Char :=
  match Text.stripStart? mark.toList cs with
  | some rest => (true, rest)
  | none => (false, cs)

/-- The parts before and after the last `__`. -/
def splitLast : List Char → Option (List Char × List Char)
  | [] => none
  | c :: r =>
    match splitLast r with
    | some (before, after) => some (c :: before, after)
    | none => if c = '_' then (Text.stripStart? ['_'] r).map fun after => ([], after) else none

/-- The field and the lookup in a key without marks. -/
def splitLookup (cs : List Char) : List Char × Option Lookup :=
  match splitLast cs with
  | some (field, suffix) =>
    if field.isEmpty then (cs, none)
    else match Lookup.ofName? (String.ofList suffix) with
      | some l => (field, some l)
      | none => (cs, none)
  | none => (cs, none)

/-- Take a key apart; every text is a key. -/
def parse (raw : String) : FilterKey :=
  let (either, rest) := takeMark eitherMark raw.toList
  let (negated, rest) := takeMark negatedMark rest
  let (field, lookup) := splitLookup rest
  ⟨either, negated, String.ofList field, lookup⟩

def lookupText : Option Lookup → String
  | none => ""
  | some l => separator ++ l.name

def toText (k : FilterKey) : String :=
  (if k.either then eitherMark else "") ++ (if k.negated then negatedMark else "")
    ++ k.field ++ lookupText k.lookup

end FilterKey

end AdminConsole.Search
