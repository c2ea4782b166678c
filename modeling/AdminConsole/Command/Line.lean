/-
# `Command.Line` — what the program is asked to do, and with which settings
-/
import AdminConsole.Command.Value
import AdminConsole.Console.Config

namespace AdminConsole.Command

/-- List a collection. -/
structure ListArgs where
  kind : Kind
  query : Option String
  filters : List Filter
  excludes : List Filter
  page : Option Int
  pageSize : Option Nat
  orderBy : Option String
  descending : Bool
  deriving DecidableEq, Repr

/-- Remove resources, or detach them from a parent. -/
structure RemoveArgs where
  kind : Kind
  ids : List ResourceId
  parent : Option Parent
  confirmed : Bool
  deriving DecidableEq, Repr

/-- What the program is asked to do. -/
inductive Task where
  | list (args : ListArgs)
  | inspect (kind : Kind) (id : ResourceId)
  | schema (kind : Kind)
  | remove (args : RemoveArgs)
  | whoami
  deriving DecidableEq, Repr

/-- A command line. -/
structure Line where
  apiUrl : Url
  token : Option String
  timeoutSecs : Nat
  defaultPageSize : Nat
  output : OutputFormat
  logLevel : String
  logFormat : Option Logging.Format
  task : Task
  deriving DecidableEq, Repr

/-- The settings of the console that a command line gives. -/
def Line.config (l : Line) : ConsoleConfig :=
  { ConsoleConfig.ofUrl l.apiUrl with
    timeoutSecs := l.timeoutSecs
    defaultPageSize := l.defaultPageSize
    token := l.token }

end AdminConsole.Command
