/-
# `Command.Slot` — the places of a command line that take arguments

Options stand behind their names, positional arguments in their order; a verb
says which of them there are.
-/
import AdminConsole.Command.Value

namespace AdminConsole.Command

/-- A place for arguments. -/
inductive Slot where
  | apiUrl
  | token
  | timeout
  | defaultPageSize
  | output
  | logLevel
  | logFormat
  | help
  | kind
  | query
  | filters
  | excludes
  | page
  | pageSize
  | orderBy
  | descending
  | id
  | ids
  | parent
  | confirmed
  deriving DecidableEq, Repr

namespace Slot

def optionName? : Slot → Option String
  | apiUrl => some "api-url"
  | token => some "token"
  | timeout => some "timeout"
  | defaultPageSize => some "default-page-size"
  | output => some "output"
  | logLevel => some "log-level"
  | logFormat => some "log-format"
  | help => some "help"
  | kind => none
  | query => some "query"
  | filters => some "filter"
  | excludes => some "exclude"
  | page => some "page"
  | pageSize => some "page-size"
  | orderBy => some "order-by"
  | descending => some "desc"
  | id => none
  | ids => none
  | parent => some "from"
  | confirmed => some "yes"

def valueName : Slot → String
  | apiUrl => "API_URL"
  | token => "TOKEN"
  | timeout => "TIMEOUT"
  | defaultPageSize => "DEFAULT_PAGE_SIZE"
  | output => "OUTPUT"
  | logLevel => "LOG_LEVEL"
  | logFormat => "LOG_FORMAT"
  | kind => "RESOURCE"
  | query => "QUERY"
  | filters => "FILTERS"
  | excludes => "EXCLUDES"
  | page => "PAGE"
  | pageSize => "PAGE_SIZE"
  | orderBy => "ORDER_BY"
  | id => "ID"
  | ids => "IDS"
  | parent => "FROM"
  | help | descending | confirmed => ""

/-- Whether an option has no value. -/
def isFlag : Slot → Bool
  | help | descending | confirmed => true
  | _ => false

/-- Whether a positional argument takes all that follow. -/
def takesMany (s : Slot) : Bool := s == ids

/-- Whether each value may hold several, with commas between them. -/
def isDelimited (s : Slot) : Bool := s == ids

/-- How a slot is referred to in messages. -/
def label (s : Slot) : String :=
  match s.optionName? with
  | some name => "--" ++ name ++ if s.isFlag then "" else " <" ++ s.valueName ++ ">"
  | none => "<" ++ s.valueName ++ ">" ++ if s.takesMany then "..." else ""

/-- The variable of the environment that stands in for an option. -/
def environmentName? : Slot → Option String
  | apiUrl => some "HELMSMAN_API_URL"
  | token => some "HELMSMAN_TOKEN"
  | timeout => some "HELMSMAN_HTTP_TIMEOUT_SECS"
  | defaultPageSize => some "HELMSMAN_PAGE_SIZE"
  | logLevel => some "HELMSMAN_LOG"
  | _ => none

/-- The values that a slot is limited to, if they can be listed. -/
def choices : Slot → List String
  | output => OutputFormat.all.map OutputFormat.name
  | logFormat => logFormats.map Logging.Format.name
  | _ => []

/-- The options that go with every verb and may also stand in front of it. -/
def everywhere : List Slot :=
  [apiUrl, token, timeout, defaultPageSize, output, logLevel, logFormat]

end Slot

/-! ## Verbs -/

/-- What the first positional argument may ask for. -/
inductive Verb where
  | list
  | inspect
  | schema
  | remove
  | whoami
  deriving DecidableEq, Repr

namespace Verb

def all : List Verb := [list, inspect, schema, remove, whoami]

def name : Verb → String
  | list => "ls"
  | inspect => "show"
  | schema => "options"
  | remove => "rm"
  | whoami => "whoami"

/-- The verb that asks for help. -/
def helpName : String := "help"

def ofName? (s : String) : Option Verb := all.find? fun v => v.name == s

def positionals : Verb → List Slot
  | list => [.kind]
  | inspect => [.kind, .id]
  | schema => [.kind]
  | remove => [.kind, .ids]
  | whoami => []

def options : Verb → List Slot
  | list => [.query, .filters, .excludes, .page, .pageSize, .orderBy, .descending]
  | remove => [.parent, .confirmed]
  | inspect | schema | whoami => []

end Verb

/-! ## Grammars -/

/-- What a part of the command line may hold. -/
structure Grammar where
  hasVerbs : Bool
  positionals : List Slot
  options : List Slot
  deriving DecidableEq, Repr

namespace Grammar

/-- The part in front of the verb. -/
def front : Grammar := ⟨true, [], Slot.everywhere ++ [.help]⟩

/-- The part behind a verb. -/
def behind (v : Verb) : Grammar := ⟨false, v.positionals, v.options ++ Slot.everywhere ++ [.help]⟩

def option? (g : Grammar) (name : String) : Option Slot :=
  g.options.find? fun s => s.optionName? == some name

/-- Whether an argument names a verb here. -/
def isVerb (g : Grammar) (arg : String) : Bool :=
  g.hasVerbs && (arg == Verb.helpName || (Verb.ofName? arg).isSome)

end Grammar

end AdminConsole.Command
