/-
# `Command.Program` — the program as a whole

From its environment and its arguments to what it prints and its exit code.  Its
help says what it is for, which verbs it has with which arguments, and its
options.
-/
import AdminConsole.Command.Reader
import AdminConsole.Command.Run
import AdminConsole.Command.Slot

namespace AdminConsole.Command

/-! ## Help -/

def about : String := "Browse and prune automation controller resources"

def Verb.summary : Verb → String
  | .list => "List a resource collection"
  | .inspect => "Show one resource"
  | .schema => "Show searchable keys and permissions of a collection"
  | .remove => "Delete resources, or detach them from a parent with --from"
  | .whoami => "Show the server version and the signed-in user"

def Slot.summary : Slot → String
  | .apiUrl => "URL of the controller"
  | .token => "OAuth2 bearer token"
  | .timeout => "HTTP timeout in seconds"
  | .defaultPageSize => "Rows per page when --page-size is not given"
  | .output => "Form of the output"
  | .logLevel => "Log filter directive"
  | .logFormat => "Form of the log"
  | .help => "Print help"
  | .query => "Location search string with namespaced keys, e.g. credential.page=2"
  | .filters => "Filter as KEY=VALUE, e.g. name__icontains=web"
  | .excludes => "Exclude rows matching KEY=VALUE"
  | .page => "Page to show"
  | .pageSize => "Rows per page"
  | .orderBy => "Key to sort by"
  | .descending => "Sort descending"
  | .kind => "Resource collection, e.g. credentials"
  | .id => "Identifier of a resource"
  | .ids => "Identifiers to remove"
  | .parent => "Detach from RESOURCE/ID instead of deleting"
  | .confirmed => "Proceed without a confirmation dry run"

/-- A line of two columns. -/
def helpLine (name what : String) : String :=
  "  " ++ name ++ String.ofList (List.replicate (42 - name.length) ' ') ++ what

/-- A verb with its positional arguments. -/
def Verb.usage (v : Verb) : String :=
  v.name ++ String.join (v.positionals.map fun s => " " ++ s.label)

def optionLines (slots : List Slot) : List String := slots.map fun s => helpLine s.label s.summary

/-- The lines of a verb: what it does and its own options. -/
def Verb.helpLines (v : Verb) : List String :=
  helpLine v.usage v.summary :: (optionLines v.options).map fun line => "  " ++ line

def helpLines (program : String) : List String :=
  [about, "", "Usage: " ++ program ++ " [OPTIONS] <COMMAND>", "", "Commands:"]
    ++ Verb.all.flatMap Verb.helpLines
    ++ ["", "Options:"] ++ optionLines (Slot.everywhere ++ [.help])

/-! ## The program -/

/-- What the program leaves behind: what it has printed, each text on a line of its own, what it has
to say about an error, and its exit code. -/
structure Ending where
  printed : List String
  complaint : Option String
  exitCode : Nat
  deriving DecidableEq, Repr

namespace Ending

def help : List String := helpLines Fault.program

/-- The ending of a command line that cannot be read: a complaint, unless help is shown instead. -/
def ofFault (f : Fault) : Ending :=
  match f with
  | .help => ⟨help, none, f.exitCode⟩
  | .nothingGiven => ⟨[], some (Text.joinText "\n" help), f.exitCode⟩
  | _ => ⟨[], some f.message, f.exitCode⟩

def errorMark : String := "error: "

def ofResult (format : OutputFormat) (r : Result) : Ending :=
  ⟨r.printed format, r.error.map fun e => errorMark ++ e.message, r.exitCode⟩

end Ending

/-- Read the arguments and carry them out on the service to which the settings lead. -/
def program {m : Type → Type} [Monad m] (serviceOf : Http.Client → Service m) (env : Environment)
    (args : List String) : m Ending := do
  match read env args with
  | .error fault => pure (.ofFault fault)
  | .ok line => return .ofResult line.output (← line.run serviceOf)

end AdminConsole.Command
