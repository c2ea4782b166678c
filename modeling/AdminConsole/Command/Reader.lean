/-
# `Command.Reader` — reading command lines

Arguments are taken in turn.  What an option or a positional argument is given
is kept aside until the next one begins, and only then checked, so an argument
that has no place is told before the value in front of it.  Behind `--` every
argument is positional.

A variable of the environment stands in for an option that is not given; an
option behind the verb outdoes the same option in front of it, and what is given
outdoes the environment.
-/
import AdminConsole.Command.Fault
import AdminConsole.Command.Line

namespace AdminConsole.Command

/-! ## What is given -/

/-- Where a value comes from. -/
inductive Source where
  | environment
  | arguments
  deriving DecidableEq, Repr

/-- A value and where it comes from. -/
structure Setting (α : Type) where
  value : α
  source : Source
  deriving DecidableEq, Repr

/-- The options that go with every verb, as far as they are given. -/
structure Common where
  apiUrl : Option (Setting Url) := none
  token : Option (Setting String) := none
  timeout : Option (Setting Nat) := none
  defaultPageSize : Option (Setting Nat) := none
  output : Option (Setting OutputFormat) := none
  logLevel : Option (Setting String) := none
  logFormat : Option (Setting Logging.Format) := none
  deriving DecidableEq, Repr

/-- What is given in one part of a command line. -/
structure Given where
  common : Common := {}
  kind : Option Kind := none
  query : Option String := none
  filters : List Filter := []
  excludes : List Filter := []
  page : Option Int := none
  pageSize : Option Nat := none
  orderBy : Option String := none
  descending : Bool := false
  id : Option ResourceId := none
  ids : List ResourceId := []
  parent : Option Parent := none
  confirmed : Bool := false
  deriving DecidableEq, Repr

namespace Given

def has (g : Given) : Slot → Bool
  | .apiUrl => g.common.apiUrl.isSome
  | .token => g.common.token.isSome
  | .timeout => g.common.timeout.isSome
  | .defaultPageSize => g.common.defaultPageSize.isSome
  | .output => g.common.output.isSome
  | .logLevel => g.common.logLevel.isSome
  | .logFormat => g.common.logFormat.isSome
  | .help => false
  | .kind => g.kind.isSome
  | .query => g.query.isSome
  | .filters => !g.filters.isEmpty
  | .excludes => !g.excludes.isEmpty
  | .page => g.page.isSome
  | .pageSize => g.pageSize.isSome
  | .orderBy => g.orderBy.isSome
  | .descending => g.descending
  | .id => g.id.isSome
  | .ids => !g.ids.isEmpty
  | .parent => g.parent.isSome
  | .confirmed => g.confirmed

def mayRepeat : Slot → Bool
  | .filters | .excludes | .ids => true
  | _ => false

def checked {α : Type} (s : Slot) (value : String) : Except ValueFault α → Except Fault α
  | .ok a => .ok a
  | .error why => .error (.invalidValue s value why)

/-- One of the values that a slot is limited to. -/
def chosen {α : Type} (s : Slot) (value : String) : Option α → Except Fault α
  | some a => .ok a
  | none => .error (.notAmong s value)

/-- Take up one value. -/
def store (g : Given) (source : Source) (s : Slot) (value : String) : Except Fault Given :=
  let common (c : Common) : Given := { g with common := c }
  match s with
  | .apiUrl => do
    let u ← checked s value (readUrl value)
    pure (common { g.common with apiUrl := some ⟨u, source⟩ })
  | .token => pure (common { g.common with token := some ⟨value, source⟩ })
  | .timeout => do
    let n ← checked s value (readNat64 value)
    pure (common { g.common with timeout := some ⟨n, source⟩ })
  | .defaultPageSize => do
    let n ← checked s value (readNat32 value)
    pure (common { g.common with defaultPageSize := some ⟨n, source⟩ })
  | .output => do
    let f ← chosen s value (OutputFormat.ofName? value)
    pure (common { g.common with output := some ⟨f, source⟩ })
  | .logLevel => pure (common { g.common with logLevel := some ⟨value, source⟩ })
  | .logFormat => do
    let f ← chosen s value (logFormat? value)
    pure (common { g.common with logFormat := some ⟨f, source⟩ })
  | .kind => do pure { g with kind := some (← checked s value (readKind value)) }
  | .query => pure { g with query := some value }
  | .filters => do pure { g with filters := g.filters ++ [← checked s value (Filter.parse value)] }
  | .excludes => do
    pure { g with excludes := g.excludes ++ [← checked s value (Filter.parse value)] }
  | .page => do pure { g with page := some (← checked s value (readInt64 value)) }
  | .pageSize => do pure { g with pageSize := some (← checked s value (readNat32 value)) }
  | .orderBy => pure { g with orderBy := some value }
  | .id => do pure { g with id := some (← checked s value (readInt64 value)) }
  | .ids => do pure { g with ids := g.ids ++ [← checked s value (readInt64 value)] }
  | .parent => do pure { g with parent := some (← checked s value (Parent.parse value)) }
  | .help => .error .help
  | .descending => pure { g with descending := true }
  | .confirmed => pure { g with confirmed := true }

def valuesOf (s : Slot) (texts : List String) : List String :=
  if s.isDelimited then
    texts.flatMap fun t => (Text.splitAll ',' t.toList).map String.ofList
  else texts

/-- Take up what is given to a slot. -/
def accept (g : Given) (s : Slot) (texts : List String) : Except Fault Given :=
  if texts.isEmpty && !s.isFlag then .error (.missingValue s)
  else if g.has s && !mayRepeat s then .error (.repeated s)
  else if s.isFlag then g.store .arguments s ""
  else (valuesOf s texts).foldlM (fun g value => g.store .arguments s value) g

end Given

/-! ## Scanning -/

/-- How far the scan of one part has come: what was taken up, what is kept aside, at which positional
argument it is, and whether `--` has been met. -/
structure Scan where
  given : Given := {}
  aside : Option (Slot × List String) := none
  position : Nat := 0
  trailing : Bool := false
  deriving DecidableEq, Repr

/-- How the scan of one part ends: with the arguments, or at a verb with those behind it. -/
inductive Stop where
  | exhausted
  | verb (v : Verb) (rest : List String)
  deriving DecidableEq, Repr

namespace Scan

/-- Take up what is kept aside. -/
def settle (s : Scan) : Except Fault Scan :=
  match s.aside with
  | some (slot, texts) => do pure { s with given := ← s.given.accept slot texts, aside := none }
  | none => .ok s

/-- The option that waits for its value. -/
def waiting? (s : Scan) : Option Slot :=
  match s.aside with
  | some (slot, []) => some slot
  | _ => none

def takeOption (s : Scan) (slot : Slot) (texts : List String) : Except Fault Scan := do
  let s ← s.settle
  pure { s with given := ← s.given.accept slot texts }

/-- An option with its name and what is attached to it. -/
def long (g : Grammar) (s : Scan) (cs : List Char) : Except Fault Scan :=
  let (name, attached) := match Text.splitFirst '=' cs with
    | some (name, value) => (String.ofList name, some (String.ofList value))
    | none => (String.ofList cs, none)
  match g.option? name, attached with
  | none, _ => .error (.unexpected ("--" ++ name))
  | some slot, some value =>
    if slot.isFlag then .error (.attachedValue slot value) else s.takeOption slot [value]
  | some slot, none =>
    if slot.isFlag then s.takeOption slot []
    else do pure { ← s.settle with aside := some (slot, []) }

def short (s : Scan) (c : Char) : Except Fault Scan :=
  if c = 'h' then s.takeOption .help [] else .error (.unexpected (String.ofList ['-', c]))

def stray (g : Grammar) (s : Scan) (arg : String) : Fault :=
  if g.hasVerbs && !(s.trailing && g.isVerb arg) then .unknownVerb arg else .unexpected arg

def positional (g : Grammar) (s : Scan) (arg : String) : Except Fault Scan :=
  match g.positionals[s.position]?, s.aside with
  | none, _ => .error (stray g s arg)
  | some slot, some (kept, texts) =>
    if kept = slot && slot.takesMany then
      .ok { s with aside := some (slot, texts ++ [arg]) }
    else do
      let s ← s.settle
      pure { s with
        aside := some (slot, [arg])
        position := if slot.takesMany then s.position else s.position + 1 }
  | some slot, none =>
    .ok { s with
      aside := some (slot, [arg])
      position := if slot.takesMany then s.position else s.position + 1 }

/-- An argument that is neither `--` nor a verb, before any `--`. -/
def argument (g : Grammar) (s : Scan) (arg : String) : Except Fault Scan :=
  match arg.toList with
  | '-' :: '-' :: cs => long g s cs
  | '-' :: c :: _ => short s c
  | _ => match s.waiting? with
    | some slot => .ok { s with aside := some (slot, [arg]) }
    | none => positional g s arg

/-- What follows the verb for help: the names of a verb and of nothing below it. -/
def helpFault : List String → Fault
  | [] => .help
  | arg :: rest =>
    if Grammar.front.isVerb arg then
      match rest with
      | [] => .help
      | other :: _ => .unknownVerb other
    else .unknownVerb arg

def run (g : Grammar) (s : Scan) : List String → Except Fault (Scan × Stop)
  | [] => .ok (s, .exhausted)
  | arg :: rest =>
    if s.trailing then do run g (← positional g s arg) rest
    else if g.isVerb arg && s.waiting?.isNone then
      match Verb.ofName? arg with
      | some v => .ok (s, .verb v rest)
      | none => .error (helpFault rest)
    else if arg = "--" then run g { s with trailing := true } rest
    else do run g (← argument g s arg) rest

end Scan

/-! ## Environment -/

abbrev Environment := List (String × String)

/-- The value of the variable that stands in for a slot. -/
def variableValue? (env : Environment) (s : Slot) : Option String :=
  s.environmentName?.bind fun name => Entries.get? name env

/-- Let the environment stand in for one option that is not given. -/
def Given.standIn (env : Environment) (g : Given) (s : Slot) : Except Fault Given :=
  match variableValue? env s with
  | some value => if g.has s then .ok g else g.store .environment s value
  | none => .ok g

/-- Let the environment stand in for the options that are not given. -/
def Given.withEnvironment (g : Given) (env : Environment) : Except Fault Given :=
  Slot.everywhere.foldlM (Given.standIn env) g

/-! ## Both parts -/

def Given.missing (g : Given) (v : Verb) : List Slot :=
  (if g.descending && g.orderBy.isNone then [Slot.orderBy] else [])
    ++ v.positionals.filter fun s => !g.has s

/-- The setting in effect: the one behind the verb, unless only the other is given in arguments. -/
def outdo {α : Type} (front behind : Option (Setting α)) : Option (Setting α) :=
  match front, behind with
  | f, none => f
  | none, b => b
  | some f, some b => if f.source = .arguments && b.source = .environment then some f else some b

/-- The common options in effect. -/
def Common.merge (front behind : Common) : Common where
  apiUrl := outdo front.apiUrl behind.apiUrl
  token := outdo front.token behind.token
  timeout := outdo front.timeout behind.timeout
  defaultPageSize := outdo front.defaultPageSize behind.defaultPageSize
  output := outdo front.output behind.output
  logLevel := outdo front.logLevel behind.logLevel
  logFormat := outdo front.logFormat behind.logFormat

/-- The URL of the service unless told otherwise. -/
def usualApiUrl : Url := ⟨"http", "", "", some (.ipv4 2130706433), some 8013, .segments [""], none, none⟩

/-- The task of a verb with what is given to it. -/
def taskOf (v : Verb) (g : Given) : Task :=
  let kind := g.kind.getD default
  match v with
  | .list =>
    .list ⟨kind, g.query, g.filters, g.excludes, g.page, g.pageSize, g.orderBy, g.descending⟩
  | .inspect => .inspect kind (g.id.getD 0)
  | .schema => .schema kind
  | .remove => .remove ⟨kind, g.ids, g.parent, g.confirmed⟩
  | .whoami => .whoami

/-- The command line of a task with the common options. -/
def lineOf (c : Common) (task : Task) : Line where
  apiUrl := (c.apiUrl.map Setting.value).getD usualApiUrl
  token := c.token.map Setting.value
  timeoutSecs := (c.timeout.map Setting.value).getD ConsoleConfig.usualTimeout
  defaultPageSize := (c.defaultPageSize.map Setting.value).getD ConsoleConfig.usualPageSize
  output := (c.output.map Setting.value).getD .table
  logLevel := (c.logLevel.map Setting.value).getD "warn"
  logFormat := c.logFormat.map Setting.value
  task

def readBehind (env : Environment) (v : Verb) (args : List String) : Except Fault Given := do
  let (scan, _) ← Scan.run (Grammar.behind v) {} args
  let scan ← scan.settle
  let given ← scan.given.withEnvironment env
  match given.missing v with
  | [] => pure given
  | slots => throw (.missing slots)

def Given.isAnything (g : Given) : Bool := Slot.everywhere.any g.has

def read (env : Environment) (args : List String) : Except Fault Line := do
  match ← Scan.run Grammar.front {} args with
  | (scan, .verb v rest) =>
    let behind ← readBehind env v rest
    let scan ← scan.settle
    let front ← scan.given.withEnvironment env
    pure (lineOf (front.common.merge behind.common) (taskOf v behind))
  | (scan, .exhausted) =>
    let scan ← scan.settle
    let front ← scan.given.withEnvironment env
    throw (if front.isAnything then .missingVerb else .nothingGiven)

end AdminConsole.Command
