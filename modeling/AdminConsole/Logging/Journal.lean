/-
# `Logging.Journal` — the log of a process

It is written as lines for people or as one JSON value to a line.  It is set up
once: later attempts fail and change nothing.  The name of the build is kept
from the first attempt.  Directives that come from outside the program override
the level of the settings if all of them can be read.
-/
import AdminConsole.Json.Value
import AdminConsole.Logging.Filter
import AdminConsole.Text.Pieces

namespace AdminConsole.Logging

/-! ## Formats -/

inductive Format where
  | json
  | pretty
  deriving DecidableEq, Repr

namespace Format

def name : Format → String
  | json => "json"
  | pretty => "pretty"

/-- The format unless told otherwise. -/
def usual : Format := pretty

/-- The format of a name, whatever its case and the blanks around it; unknown names have the usual
one. -/
def ofName (s : String) : Format :=
  match Text.lower (Text.trim s) with
  | "json" => json
  | "pretty" => pretty
  | "text" => pretty
  | _ => usual

/-- The format that a configuration names, if it names one. -/
def ofConfig? (config : Json) : Option Format :=
  match config.member? "log_format" with
  | some (.string s) => some (ofName s)
  | _ => none

end Format

/-! ## Journals -/

/-- How the log is to be set up. -/
structure Settings where
  level : String
  format : Format
  buildSha : String
  deriving DecidableEq, Repr

/-- Why the log cannot be set up. -/
inductive SetupError where
  | alreadyInstalled
  deriving DecidableEq, Repr

def SetupError.message : SetupError → String
  | .alreadyInstalled => "failed to install tracing subscriber"

/-- A line of the log: a directive that could not be read, or an event. -/
inductive Line where
  | ignored (directive : String)
  | event (format : Format) (e : Event)
  deriving DecidableEq, Repr

/-- Whether a line is a JSON value. -/
def Line.isJson : Line → Bool
  | .event .json _ => true
  | _ => false

/-- The log of a process. -/
structure Journal where
  build : Option String
  installed : Option (Format × Filter)
  lines : List Line
  deriving DecidableEq, Repr

namespace Journal

def empty : Journal := ⟨none, none, []⟩

def usualLevel : String := "warn"

/-- The name of a build without one. -/
def usualBuild : String := "dev"

def buildSha (j : Journal) : String := j.build.getD usualBuild

def usualSettings (j : Journal) : Settings := ⟨usualLevel, Format.usual, j.buildSha⟩

def log (j : Journal) (e : Event) : Journal :=
  match j.installed with
  | some (format, filter) =>
    if filter.allows e then { j with lines := j.lines ++ [.event format e] } else j
  | none => j

/-- The filter in effect and the directives that were ignored for it. -/
def chooseFilter (environment : Option String) (level : String) : Filter × List Line :=
  match environment.bind Filter.ofEnvironment? with
  | some f => (f, [])
  | none => (Filter.ofSetting level, (Filter.unreadable level).map .ignored)

/-- The event that tells of the setup and of the build. -/
def setupEvent : Event := ⟨"helmsman_telemetry::init", .debug, [messageField, "build_sha"]⟩

def install (j : Journal) (environment : Option String) (s : Settings) :
    Journal × Except SetupError Unit :=
  let (filter, ignored) := chooseFilter environment s.level
  let j := { j with build := some (j.build.getD s.buildSha), lines := j.lines ++ ignored }
  match j.installed with
  | some _ => (j, .error .alreadyInstalled)
  | none => ({ j with installed := some (s.format, filter) }.log setupEvent, .ok ())

end Journal

end AdminConsole.Logging
