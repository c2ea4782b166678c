/-
# `Json.Printer` — the text of a JSON value

On one line without blanks, or spread over lines with two blanks for each level.
-/
import AdminConsole.Json.Value

namespace AdminConsole.Json

/-! ## Strings -/

/-- The small hexadecimal digit of a value below sixteen. -/
def hexDigit (n : Nat) : Char := Char.ofNat (if n < 10 then 48 + n else 87 + n)

/-- A character inside a string: quotes, backslashes and control characters are escaped. -/
def escapeChar (c : Char) : List Char :=
  if c = '"' then ['\\', '"']
  else if c = '\\' then ['\\', '\\']
  else if c = '\n' then ['\\', 'n']
  else if c = '\r' then ['\\', 'r']
  else if c = '\t' then ['\\', 't']
  else if c.toNat = 8 then ['\\', 'b']
  else if c.toNat = 12 then ['\\', 'f']
  else if c.toNat < 32 then ['\\', 'u', '0', '0', hexDigit (c.toNat / 16), hexDigit (c.toNat % 16)]
  else [c]

def quote (s : String) : String :=
  String.ofList ('"' :: s.toList.flatMap escapeChar ++ ['"'])

/-! ## One line -/

mutual

/-- A value on one line without blanks. -/
def compact : Json → String
  | .null => "null"
  | .bool b => if b then "true" else "false"
  | .number n => n.toText
  | .string s => quote s
  | .array items => "[" ++ compactItems items ++ "]"
  | .object members => "\x7b" ++ compactMembers members ++ "\x7d"

def compactItems : List Json → String
  | [] => ""
  | [j] => compact j
  | j :: k :: r => compact j ++ "," ++ compactItems (k :: r)

def compactMembers : List (String × Json) → String
  | [] => ""
  | [(name, j)] => quote name ++ ":" ++ compact j
  | (name, j) :: m :: r => quote name ++ ":" ++ compact j ++ "," ++ compactMembers (m :: r)

end

/-! ## Several lines -/

/-- A new line with two blanks for each level. -/
def newline (level : Nat) : String := String.ofList ('\n' :: List.replicate (2 * level) ' ')

mutual

/-- A value spread over lines, its first line being already indented. -/
def spread (level : Nat) : Json → String
  | .array (j :: r) =>
    "[" ++ newline (level + 1) ++ spreadItems (level + 1) (j :: r) ++ newline level ++ "]"
  | .object (m :: r) =>
    "\x7b" ++ newline (level + 1) ++ spreadMembers (level + 1) (m :: r) ++ newline level ++ "\x7d"
  | .null => "null"
  | .bool b => if b then "true" else "false"
  | .number n => n.toText
  | .string s => quote s
  | .array [] => "[]"
  | .object [] => "\x7b\x7d"

def spreadItems (level : Nat) : List Json → String
  | [] => ""
  | [j] => spread level j
  | j :: k :: r => spread level j ++ "," ++ newline level ++ spreadItems level (k :: r)

def spreadMembers (level : Nat) : List (String × Json) → String
  | [] => ""
  | [(name, j)] => quote name ++ ": " ++ spread level j
  | (name, j) :: m :: r =>
    quote name ++ ": " ++ spread level j ++ "," ++ newline level ++ spreadMembers level (m :: r)

end

/-- A value spread over lines. -/
def pretty (j : Json) : String := spread 0 j

end AdminConsole.Json
