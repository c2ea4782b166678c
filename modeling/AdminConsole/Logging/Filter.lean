/-
# `Logging.Filter` — which events reach the log

A filter is a list of directives between commas.  A directive names a level, for
everything or for the targets that begin with a text; of those that apply to an
event the one with the longest text counts, and of two with the same text the
later.  Directives may also be bound to a span of work; such directives hold
nothing for events outside of it, unless they name fields alone.
-/
import AdminConsole.Logging.Pattern
import AdminConsole.Text.Percent

namespace AdminConsole.Logging

/-! ## Levels -/

/-- How important an event is. -/
inductive Level where
  | error
  | warn
  | info
  | debug
  | trace
  deriving DecidableEq, Repr

namespace Level

def all : List Level := [error, warn, info, debug, trace]

/-- The place of a level, counted from one. -/
def rank : Level → Nat
  | error => 1
  | warn => 2
  | info => 3
  | debug => 4
  | trace => 5

def name : Level → String
  | error => "error"
  | warn => "warn"
  | info => "info"
  | debug => "debug"
  | trace => "trace"

end Level

/-- The rank that lets every level through. -/
def fullRank : Nat := Level.trace.rank

/-- The rank of a level's name, of `off`, or of a digit. -/
def readRank? (s : String) : Option Nat :=
  match (Text.readInteger 0 Text.maxNat64 s.toList).toOption with
  | some n => if n ≤ fullRank then some n.toNat else none
  | none =>
    if Text.lower s = "off" then some 0
    else (Level.all.find? fun l => l.name == Text.lower s).map Level.rank

/-! ## Events -/

/-- What is told to the log: for whom, how important it is, and the names of its fields. -/
structure Event where
  target : String
  level : Level
  fields : List String
  deriving DecidableEq, Repr

def messageField : String := "message"

def Event.plain (target : String) (level : Level) : Event := ⟨target, level, [messageField]⟩

/-! ## Directives -/

/-- A field that a directive asks for, and whether it asks for a value. -/
structure Field where
  name : String
  hasValue : Bool
  deriving DecidableEq, Repr

/-- A directive: which targets it is for, up to which rank, and the span and the fields that it is bound
to. -/
structure Directive where
  target : Option String
  rank : Nat
  span : Option String
  fields : List Field
  deriving DecidableEq, Repr

namespace Directive

/-- How many bytes a text takes. -/
def size (cs : List Char) : Nat := (Percent.utf8 cs).length

/-- A piece of a directive, from one place up to another or to the end. -/
def cut? (whole : List UInt8) (start : Nat) (stop : Option Nat) : Option String :=
  Percent.ofUtf8? ((match stop with
    | some j => whole.take j
    | none => whole).drop start)

/-- The rank behind an equals sign; without one, everything. -/
def readLevel? (s : String) : Option Nat := if s.isEmpty then some fullRank else readRank? s

/-- Read a field: a name, and behind an equals sign a value. -/
def readField? (s : String) : Option Field :=
  match Text.splitAll '=' s.toList with
  | [] => none
  | [name] => if name.isEmpty then none else some ⟨String.ofList name, false⟩
  | name :: value :: _ =>
    if Pattern.isComparable value then some ⟨String.ofList name, true⟩ else none

/-- Read what may follow a span: nothing, or an equals sign and a level. -/
def readTail? (whole : List UInt8) (place : Nat) : List Char → Option Nat
  | [] => some fullRank
  | '=' :: _ => (cut? whole (place + 1) none).bind readLevel?
  | _ => none

/-- Read a span, after its bracket; a field stands between braces. -/
def readSpan? (whole : List UInt8) (target : Option String) (start : Nat) (cs : List Char) :
    Option Directive := do
  let name := cs.takeWhile fun c => c != ']' && c != '\x7b'
  let stop := start + size name
  let span ← cut? whole start (some stop)
  match cs.drop name.length with
  | ']' :: r =>
    let rank ← readTail? whole (stop + 1) r
    some ⟨target, rank, some span, []⟩
  | '\x7b' :: r => match Text.splitFirst '\x7d' r with
    | some (text, ']' :: r) =>
      let behind := stop + 1 + size text
      let field ← (cut? whole (stop + 1) (some behind)).bind readField?
      let rank ← readTail? whole (behind + 2) r
      some ⟨target, rank, if span.isEmpty then none else some span, [field]⟩
    | _ => none
  | _ => none

/-- Whether a directive can start with a character. -/
def canStart (c : Char) : Bool :=
  Text.isLetterOrNumber c || c == '-' || c == ':' || c == '_'

/-- A directive without level: a level for everything, or else everything for a target. -/
def ofName (s : String) : Directive :=
  match readRank? s with
  | some rank => ⟨none, rank, none, []⟩
  | none => ⟨some s, fullRank, none, []⟩

/-- Read a directive.  Its places are counted without the blanks around it, but its pieces are cut out of
the whole text: blanks in front push them to the left, and blanks at the end belong to the last one. -/
def parse? (s : String) : Option Directive :=
  let whole := s.toUTF8.toList
  match Text.trimBlanks s.toList with
  | [] => none
  | '[' :: r => readSpan? whole none 1 r
  | c :: r =>
    let name := (c :: r).takeWhile fun c => c != '=' && c != '['
    let stop := size name
    if !canStart c then none
    else match (c :: r).drop name.length with
      | [] => (cut? whole 0 none).map ofName
      | '[' :: r => do
        let target ← cut? whole 0 (some stop)
        readSpan? whole (some target) (stop + 1) r
      | _ => do
        let target ← cut? whole 0 (some stop)
        let rank ← (cut? whole (stop + 1) none).bind readLevel?
        some ⟨some target, rank, none, []⟩

/-- Whether a directive holds for events outside of spans. -/
def isFree (d : Directive) : Bool := d.span.isNone && d.fields.all fun f => !f.hasValue

/-- Whether a directive holds for an event. -/
def appliesTo (e : Event) (d : Directive) : Bool :=
  d.isFree && d.fields.all (fun f => e.fields.contains f.name)
    && match d.target with
      | some t => (Text.stripStart? t.toList e.target.toList).isSome
      | none => true

/-- How specific a directive is: by the length of its target, then by its fields. -/
def weight (d : Directive) : Nat × Nat :=
  (match d.target with
    | some t => t.utf8ByteSize + 1
    | none => 0, d.fields.length)

def fieldNames (d : Directive) : List String := d.fields.map Field.name

/-- Whether a directive yields to another of the same target. -/
def yields (d e : Directive) : Bool :=
  d.weight.1 < e.weight.1 || (d.weight.1 == e.weight.1
    && (d.weight.2 < e.weight.2 || (d.weight.2 == e.weight.2 && d.fieldNames < e.fieldNames)))

end Directive

/-! ## Filters -/

/-- The directives that decide what reaches the log. -/
structure Filter where
  directives : List Directive
  deriving DecidableEq, Repr

namespace Filter

/-- The texts of the directives in a list. -/
def pieces (s : String) : List String :=
  ((Text.splitAll ',' s.toList).filter fun p => !p.isEmpty).map String.ofList

/-- The filter of a list in which every directive can be read. -/
def ofEnvironment? (s : String) : Option Filter := ((pieces s).mapM Directive.parse?).map Filter.mk

/-- The directives in a list that cannot be read. -/
def unreadable (s : String) : List String :=
  (pieces s).filter fun p => (Directive.parse? p).isNone

def errorsOnly : Filter := ⟨[⟨none, Level.error.rank, none, []⟩]⟩

/-- The filter of a setting: what can be read of it, or errors alone. -/
def ofSetting (s : String) : Filter :=
  match (pieces s).filterMap Directive.parse? with
  | [] => errorsOnly
  | ds => ⟨ds⟩

/-- Of two directives the one that counts, `d` being the later. -/
def stronger (best : Option Directive) (d : Directive) : Option Directive :=
  match best with
  | some b => if d.yields b then some b else some d
  | none => some d

/-- The directive that counts for an event. -/
def decisive? (f : Filter) (e : Event) : Option Directive :=
  (f.directives.filter (Directive.appliesTo e)).foldl stronger none

def allows (f : Filter) (e : Event) : Bool :=
  match f.decisive? e with
  | some d => e.level.rank ≤ d.rank
  | none => false

end Filter

end AdminConsole.Logging
