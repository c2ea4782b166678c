/-
# `Command.Fault` — what is wrong with a command line
-/
import AdminConsole.Command.Slot
import AdminConsole.Text.Pieces

namespace AdminConsole.Command

/-- What is wrong with a command line, or that it asks for help. -/
inductive Fault where
  /-- A value does not have the form of its slot. -/
  | invalidValue (slot : Slot) (value : String) (why : ValueFault)
  /-- A value is not among those that the slot is limited to. -/
  | notAmong (slot : Slot) (value : String)
  /-- An option has no value behind it. -/
  | missingValue (slot : Slot)
  /-- A value is attached to an option that has none. -/
  | attachedValue (slot : Slot) (value : String)
  /-- An option that may be given once is given again. -/
  | repeated (slot : Slot)
  /-- An argument has no place. -/
  | unexpected (arg : String)
  /-- An argument stands where a verb should, but names none. -/
  | unknownVerb (arg : String)
  /-- Arguments are missing. -/
  | missing (slots : List Slot)
  /-- The verb is missing. -/
  | missingVerb
  /-- Nothing is given, so help is shown in place of an error. -/
  | nothingGiven
  /-- Help is asked for. -/
  | help
  deriving DecidableEq, Repr

namespace Fault

def program : String := "helmsman"

/-- The line that lists what is possible, if that can be listed. -/
def listed (what : String) (names : List String) : String :=
  if names.isEmpty then "" else "\n  [" ++ what ++ ": " ++ Text.joinText ", " names ++ "]"

/-- The line that lists the values of a slot. -/
def choicesOf (s : Slot) : String := listed "possible values" s.choices

/-- The lack of a value; an empty value counts as none where the values can be listed. -/
def noValue (s : Slot) : String :=
  "a value is required for '" ++ s.label ++ "' but none was supplied" ++ choicesOf s

def text : Fault → String
  | invalidValue s value why =>
    "invalid value '" ++ value ++ "' for '" ++ s.label ++ "': " ++ why.message
  | notAmong s value =>
    if value.isEmpty then noValue s
    else "invalid value '" ++ value ++ "' for '" ++ s.label ++ "'" ++ choicesOf s
  | missingValue s => noValue s
  | attachedValue s value =>
    "unexpected value '" ++ value ++ "' for '" ++ s.label ++ "' found; no more were expected"
  | repeated s => "the argument '" ++ s.label ++ "' cannot be used multiple times"
  | unexpected arg => "unexpected argument '" ++ arg ++ "' found"
  | unknownVerb arg => "unrecognized subcommand '" ++ arg ++ "'"
  | missing slots =>
    "the following required arguments were not provided:"
      ++ String.join (slots.map fun s => "\n  " ++ s.label)
  | missingVerb =>
    "'" ++ program ++ "' requires a subcommand but one was not provided"
      ++ listed "subcommands" (Verb.all.map Verb.name ++ [Verb.helpName])
  | nothingGiven => ""
  | help => ""

/-- Whether help takes the place of a message. -/
def showsHelp : Fault → Bool
  | nothingGiven => true
  | help => true
  | _ => false

/-- The message, up to its first blank line. -/
def message (f : Fault) : String := Text.firstParagraph ("error: " ++ f.text)

def exitCode : Fault → Nat
  | help => 0
  | _ => 2

end Fault

end AdminConsole.Command
