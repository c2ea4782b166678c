/-
# `Url.Resolve` — reading a URL, alone or relative to another

The text is cut into scheme, authority, path, query and fragment from the left;
path segments `.` and `..` are resolved while they are read, and characters that
a part may not hold are percent-encoded.
-/
import AdminConsole.Text.Integer
import AdminConsole.Text.Pieces
import AdminConsole.Url.Host

namespace AdminConsole.Url

/-! ## What each part may hold -/

/-- Characters of fragments that stand for themselves. -/
def keepInFragment (c : Char) : Bool := !isControl c && !(" \"<>`".toList.contains c)
/-- Characters of path segments that stand for themselves. -/
def keepInPath (c : Char) : Bool := keepInFragment c && !("#?\x7b\x7d".toList.contains c)
/-- Characters of user names and passwords that stand for themselves. -/
def keepInUserinfo (c : Char) : Bool := keepInPath c && !("/:;=@[\\]^|".toList.contains c)
/-- Characters of queries that stand for themselves. -/
def keepInQuery (special : Bool) (c : Char) : Bool :=
  !isControl c && !(" \"#<>".toList.contains c) && !(special && c == '\'')

/-- Encode the characters that are not kept. -/
def escapeText (keep : Char → Bool) (cs : List Char) : String :=
  String.ofList (Percent.encodeWith keep cs)

/-! ## Query and fragment -/

/-- The text before a separator and, if there is one, the text behind it. -/
def cutAt (sep : Char) (cs : List Char) : List Char × Option (List Char) :=
  match Text.splitFirst sep cs with
  | some (before, after) => (before, some after)
  | none => (cs, none)

/-- What precedes the query, the query and the fragment. -/
def cutTail (cs : List Char) : List Char × Option (List Char) × Option (List Char) :=
  let (front, fragment) := cutAt '#' cs
  let (front, query) := cutAt '?' front
  (front, query, fragment)

/-! ## Paths -/

/-- Whether a character separates path segments. -/
def isSlash (special : Bool) (c : Char) : Bool := c == '/' || (special && c == '\\')

def splitPath (special : Bool) (cs : List Char) : List (List Char) :=
  Text.splitAll '/' (cs.map fun c => if isSlash special c then '/' else c)

/-- A segment with its encoded dots written out. -/
def plainDots : List Char → List Char
  | '%' :: '2' :: 'e' :: r => '.' :: plainDots r
  | '%' :: '2' :: 'E' :: r => '.' :: plainDots r
  | c :: r => c :: plainDots r
  | [] => []

/-- Whether a segment stays where it is. -/
def isSingleDot (cs : List Char) : Bool := plainDots cs == ['.']
/-- Whether a segment goes one level up. -/
def isDoubleDot (cs : List Char) : Bool := plainDots cs == ['.', '.']

/-- Whether a segment names a drive: a letter and a colon or a bar. -/
def isDrive : List Char → Bool
  | [a, b] => a.isAlpha && (b == ':' || b == '|')
  | _ => false

/-- Whether a segment names a drive in its usual spelling. -/
def isPlainDrive (s : String) : Bool := isDrive s.toList && s.toList.getLast? == some ':'

/-- Whether a segment is the name of a drive, alone or in front of a backslash; nothing goes above
it. -/
def isTop (s : String) : Bool :=
  match s.toList with
  | a :: b :: [] => isDrive [a, b]
  | a :: b :: c :: _ => isDrive [a, b] && c == '\\'
  | _ => false

/-- One level up, unless the last segment is the top. -/
def goUp (front : List String) : List String :=
  if (front.getLast?.map isTop).getD false then front else front.dropLast

/-- The text of a segment behind others; in a file the first segment may be a drive. -/
def segmentText (file : Bool) (front : List String) (s : List Char) : String :=
  match s with
  | [a, _] =>
    if file && front.isEmpty && isDrive s then String.ofList [a, ':'] else escapeText keepInPath s
  | _ => escapeText keepInPath s

/-- Add the segments of a path to those in front of it. -/
def addSegments (file : Bool) (front : List String) : List (List Char) → List String
  | [] => front
  | [s] =>
    if isDoubleDot s then goUp front ++ [""]
    else if isSingleDot s then front ++ [""]
    else front ++ [segmentText file front s]
  | s :: t :: r =>
    if isDoubleDot s then addSegments file (goUp front) (t :: r)
    else if isSingleDot s then addSegments file front (t :: r)
    else addSegments file (front ++ [segmentText file front s]) (t :: r)

/-- The segments of a path whose leading slash has been read. -/
def readSegments (special : Bool) (front : List String) (cs : List Char) : List String :=
  addSegments false front (splitPath special cs)

/-- A path behind an authority. -/
def readPathStart (special : Bool) : List Char → Path
  | [] => .segments (if special then [""] else [])
  | c :: r =>
    if isSlash special c then .segments (readSegments special [] r)
    else .segments (readSegments special [] (c :: r))

/-! ## Authorities -/

/-- The parts before and after the last `@`. -/
def splitUserinfo (cs : List Char) : Option (List Char × List Char) :=
  (Text.splitFirst '@' cs.reverse).map fun (after, before) => (before.reverse, after.reverse)

def readUserinfo (cs : List Char) : String × String :=
  let (user, password) := cutAt ':' cs
  (escapeText keepInUserinfo user, escapeText keepInUserinfo (password.getD []))

/-- The host and the text behind the colon that follows it; colons between brackets do not count. -/
def cutPort : Bool → List Char → List Char × Option (List Char)
  | _, [] => ([], none)
  | inside, c :: r =>
    if c = ':' ∧ inside = false then ([], some r)
    else
      let (host, port) := cutPort (if c = '[' then true else if c = ']' then false else inside) r
      (c :: host, port)

/-- Read the digits of a port. -/
def portValue? : Nat → List Char → Option Nat
  | n, [] => some n
  | n, c :: r =>
    match Text.digitValue? c with
    | some d => if n * 10 + d ≤ 65535 then portValue? (n * 10 + d) r else none
    | none => none

/-- Read a port; none is given by no digits and by the usual port of the scheme. -/
def readPort (scheme : String) : Option (List Char) → Except Fault (Option Nat)
  | none => .ok none
  | some [] => .ok none
  | some cs => match portValue? 0 cs with
    | none => .error .invalidPort
    | some n => .ok (if defaultPort? scheme = some n then none else some n)

/-- What stands between the two slashes of a URL and its path. -/
structure Authority where
  username : String
  password : String
  host : Host
  port : Option Nat
  deriving DecidableEq, Repr

/-- Whether there is no host although there has to be one: always in special schemes, else behind
credentials and in front of a port; empty credentials count only if something follows. -/
def lacksHost (special followed : Bool) (userinfo : Option (List Char)) (host : List Char)
    (port : Option (List Char)) : Bool :=
  host.isEmpty && (special || port.isSome
    || (match userinfo with
      | none => false
      | some [] => followed
      | some cs => cs != [':']))

/-- Read an authority, and what stands behind a backslash that ends its port. -/
def readAuthority (scheme : String) (followed : Bool) (cs : List Char) :
    Except Fault (Authority × List Char) := do
  let special := isSpecial scheme
  let (userinfo, rest) := match splitUserinfo cs with
    | some (before, after) => (some before, after)
    | none => (none, cs)
  let (hostText, port) := cutPort false rest
  if lacksHost special followed userinfo hostText port then throw .emptyHost
  let host ← readHost special hostText
  let number ← readPort scheme (port.map fun p => p.takeWhile (· != '\\'))
  let (username, password) := readUserinfo (userinfo.getD [])
  pure (⟨username, password, host, number⟩, (port.getD []).dropWhile (· != '\\'))

/-- Read what follows the two slashes of an authority. -/
def readAfterSlashes (scheme : String) (cs : List Char) : Except Fault Url := do
  let special := isSpecial scheme
  let (front, query, fragment) := cutTail cs
  let path := front.dropWhile fun c => !isSlash special c
  let followed := !path.isEmpty || query.isSome || fragment.isSome
  let (authority, rest) ←
    readAuthority scheme followed (front.takeWhile fun c => !isSlash special c)
  pure
    { scheme, username := authority.username, password := authority.password
      host := some authority.host, port := authority.port
      path := readPathStart special (rest ++ path)
      query := query.map (escapeText (keepInQuery special))
      fragment := fragment.map (escapeText keepInFragment) }

/-! ## Files -/

/-- The host of a file; the local one has no name. -/
def readFileHost (cs : List Char) : Except Fault Host :=
  if cs.isEmpty then .ok (.domain "")
  else do
    let host ← readHost true cs
    pure (if host = .domain "localhost" then .domain "" else host)

/-- The segments of a path of a file without the empty ones at its front. -/
def fileSegments (names : List String) : List String :=
  match names.dropWhile String.isEmpty with
  | [] => [""]
  | ns => ns

/-- A file with the given host and segments. -/
def fileUrl (host : Host) (names : List String) (query fragment : Option (List Char)) : Url :=
  { scheme := "file", username := "", password := "", host := some host, port := none
    path := .segments (fileSegments names)
    query := query.map (escapeText (keepInQuery true))
    fragment := fragment.map (escapeText keepInFragment) }

def parentSegments (u : Url) : List String :=
  match u.path with
  | .segments names => names.dropLast
  | .plain _ => []

def firstSegment (cs : List Char) : List Char := cs.takeWhile fun c => !isSlash true c

/-- Read the segments of a path of a file whose leading slash has been read. -/
def readFileSegments (front : List String) (cs : List Char) : List String :=
  addSegments true front (splitPath true cs)

/-- The host of a file, unless it is the local one or none. -/
def fileHost (base : Option Url) : Host := ((base.bind Url.host).getD (.domain ""))

/-- The drive of a file, as segments in front of others. -/
def driveOf (base : Option Url) : List String :=
  match base.map Url.path with
  | some (.segments (s :: _)) => if isPlainDrive s then [s] else []
  | _ => []

/-- Read a path of a file behind two slashes: a drive takes the place of the host. -/
def readFileAfterSlashes (cs : List Char) : Except Fault (Host × List String) :=
  if isDrive (firstSegment cs) then .ok (.domain "", readFileSegments [] cs)
  else do
    let host ← readFileHost (firstSegment cs)
    let names := readFileSegments [] ((cs.dropWhile fun c => !isSlash true c).drop 1)
    pure (if (names.head?.map isPlainDrive).getD false then .domain "" else host, names)

/-- Read a path of a file behind a single slash: a drive of the base stays in front. -/
def readFileAfterSlash (base : Option Url) (cs : List Char) : Host × List String :=
  if isDrive (firstSegment cs) then (.domain "", readFileSegments [] cs)
  else match driveOf base with
    | [] => (fileHost base, readFileSegments [] cs)
    | drive => (.domain "", readFileSegments drive cs)

/-- Read segments behind those of a path whose last one is a drive: a drive at the front is the first
level, another one becomes the beginning of the segment that follows. -/
def readBehindDrive (names : List String) (drive : String) (cs : List Char) : List String :=
  if names.length ≤ 1 then readFileSegments names cs
  else match splitPath true cs with
    | [] => names
    | s :: r =>
      let named := !(isDoubleDot s || isSingleDot s)
      let names :=
        if named then names.dropLast ++ [drive ++ escapeText keepInPath s] else names
      if r.isEmpty then (if isSingleDot s then names ++ [""] else names)
      else addSegments true names r

/-- Read a path of a file without a leading slash. -/
def readFileRelative (base : Option Url) (cs : List Char) : Host × List String :=
  if isDrive (firstSegment cs) then (.domain "", readFileSegments [] cs)
  else
    let names := match base.map Url.path with
      | some (.segments names) => names
      | _ => []
    (fileHost base,
      match names.getLast? with
      | some s =>
        if isPlainDrive s then readBehindDrive names s cs
        else readFileSegments names.dropLast cs
      | none => readFileSegments [] cs)

/-- Read a file URL behind its scheme. -/
def readFile (base : Option Url) (cs : List Char) : Except Fault Url := do
  let (front, query, fragment) := cutTail cs
  match front, base with
  | [], none => pure (fileUrl (.domain "") [""] query fragment)
  | [], some b =>
    pure { b with
      query := if query.isSome then query.map (escapeText (keepInQuery true)) else b.query
      fragment := fragment.map (escapeText keepInFragment) }
  | a :: r, _ =>
    if !isSlash true a then
      let (host, names) := readFileRelative base (a :: r)
      pure (fileUrl host names query fragment)
    else match r with
      | b :: r' =>
        if isSlash true b then
          let (host, names) ← readFileAfterSlashes r'
          pure (fileUrl host names query fragment)
        else
          let (host, names) := readFileAfterSlash base r
          pure (fileUrl host names query fragment)
      | [] =>
        let (host, names) := readFileAfterSlash base []
        pure (fileUrl host names query fragment)

/-! ## Relative references -/

/-- What follows the slashes in front of an authority: two of them, or all if there is a backslash among
the first two. -/
def dropSlashes : List Char → List Char
  | '/' :: '/' :: r => r
  | cs => cs.dropWhile (isSlash true)

/-- Read a reference that replaces the path of the base, or only its query or fragment. -/
def readReference (base : Url) (cs : List Char) : Except Fault Url :=
  let special := isSpecial base.scheme
  let (front, query, fragment) := cutTail cs
  let query := query.map (escapeText (keepInQuery special))
  let fragment := fragment.map (escapeText keepInFragment)
  match front with
  | [] => .ok { base with query := if query.isSome then query else base.query, fragment }
  | a :: r =>
    if isSlash true a then
      if (r.head?.map (isSlash true)).getD false then
        readAfterSlashes base.scheme (dropSlashes cs)
      else .ok { base with path := .segments (readSegments special [] r), query, fragment }
    else
      let path := .segments (readSegments special (parentSegments base) front)
      .ok { base with path, query, fragment }

/-! ## Schemes -/

/-- Whether a character may follow the first letter of a scheme. -/
def isSchemeChar (c : Char) : Bool := c.isAlphanum || c == '+' || c == '-' || c == '.'

/-- The scheme in small letters and what follows its colon. -/
def splitScheme : List Char → Option (String × List Char)
  | [] => none
  | c :: r =>
    if c.isAlpha then
      match r.dropWhile isSchemeChar with
      | ':' :: rest => some (Text.lower (String.ofList (c :: r.takeWhile isSchemeChar)), rest)
      | _ => none
    else none

/-- Read what follows a scheme that has neither a usual port nor files. -/
def readOther (scheme : String) (cs : List Char) : Except Fault Url :=
  match cs with
  | '/' :: '/' :: r => readAfterSlashes scheme r
  | _ =>
    let (front, query, fragment) := cutTail cs
    let path := match front with
      | '/' :: r => Path.segments (readSegments false [] r)
      | _ => Path.plain (escapeText (fun c => !isControl c) front)
    .ok
      { scheme, username := "", password := "", host := none, port := none, path
        query := query.map (escapeText (keepInQuery false))
        fragment := fragment.map (escapeText keepInFragment) }

/-- Read what follows a scheme. -/
def readWithScheme (base : Option Url) (scheme : String) (cs : List Char) : Except Fault Url :=
  if scheme = "file" then readFile (base.filter fun b => b.scheme == "file") cs
  else if isSpecial scheme then
    let slashes := (cs.takeWhile (isSlash true)).length
    match base with
    | some b =>
      if slashes < 2 ∧ b.scheme = scheme then readReference b cs
      else readAfterSlashes scheme (cs.dropWhile (isSlash true))
    | none => readAfterSlashes scheme (cs.dropWhile (isSlash true))
  else readOther scheme cs

/-- Read a text without a scheme. -/
def readRelative (base : Url) (cs : List Char) : Except Fault Url :=
  match base.path, cs with
  | .plain _, '#' :: r => .ok { base with fragment := some (escapeText keepInFragment r) }
  | .plain _, _ => .error .relativeToPlainPath
  | .segments _, _ =>
    if base.scheme = "file" then readFile (some base) cs else readReference base cs

/-! ## Whole texts -/

/-- Whether a character is dropped at the ends of a text. -/
def isOuterBlank (c : Char) : Bool := c.toNat ≤ 0x20

/-- A text without the characters that mean nothing in a URL. -/
def clean (s : String) : List Char :=
  let cs := (s.toList.dropWhile isOuterBlank).reverse.dropWhile isOuterBlank
  cs.reverse.filter fun c => c != '\t' && c != '\n' && c != '\r'

/-- Read a text, relative to a base if there is one. -/
def resolve (base : Option Url) (s : String) : Except Fault Url :=
  match splitScheme (clean s), base with
  | some (scheme, rest), _ => readWithScheme base scheme rest
  | none, some b => readRelative b (clean s)
  | none, none => .error .relativeWithoutBase

/-- Read an absolute URL. -/
def parse (s : String) : Except Fault Url := resolve none s

/-- Read a text relative to a URL. -/
def join (base : Url) (s : String) : Except Fault Url := resolve (some base) s

end AdminConsole.Url
