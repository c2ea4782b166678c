/-
# `Command.Report` — what commands report, and how it is printed

Reports are printed as lines for people or as JSON.  A listing and a session are
written as JSON with all names in their order; everything else keeps the order
of its fields.
-/
import AdminConsole.Batch.Outcome
import AdminConsole.Command.Location
import AdminConsole.DeleteDetails
import AdminConsole.Resource.Schema
import AdminConsole.Search.Lookup
import AdminConsole.Session

namespace AdminConsole

/-! ## Names in order -/

namespace Json

mutual

/-- A value in which the members of every object are in the order of their names. -/
def ordered : Json → Json
  | .array items => .array (orderedItems items)
  | .object members => .sorted (orderedMembers members)
  | .null => .null
  | .bool b => .bool b
  | .number n => .number n
  | .string s => .string s

def orderedItems : List Json → List Json
  | [] => []
  | j :: r => ordered j :: orderedItems r

def orderedMembers : List (String × Json) → List (String × Json)
  | [] => []
  | (name, j) :: r => (name, ordered j) :: orderedMembers r

end

end Json

namespace Command

/-! ## What is reported -/

/-- What is done to the resources of a removal. -/
inductive RemovalAction where
  | delete
  | disassociate
  deriving DecidableEq, Repr

namespace RemovalAction

def name : RemovalAction → String
  | delete => "delete"
  | disassociate => "disassociate"

def done : RemovalAction → String
  | delete => "deleted"
  | disassociate => "disassociated"

end RemovalAction

structure Removal where
  kind : Kind
  action : RemovalAction
  confirmed : Bool
  requested : List ResourceId
  succeeded : List ResourceId
  failures : List (Batch.ItemFailure ResourceId)
  /-- What refers to the resources, or why that is not known. -/
  referrers : Except ApiError (List RelatedCount)

/-- What a command reports. -/
inductive Report where
  | listing (kind : Kind) (rows : List Item) (count : Nat) (page : Int)
  | item (item : Item)
  | schema (kind : Kind) (schema : Schema)
  | removal (removal : Removal)
  | session (session : Session)

/-! ## Columns -/

/-- A text with blanks behind it up to a number of characters. -/
def pad (width : Nat) (s : String) : String :=
  s ++ String.ofList (List.replicate (width - s.length) ' ')

/-- What stands for a value that is not there. -/
def blankCell : String := "-"

/-- A row of three columns, the last of which is not padded. -/
def row (first second : Nat) (a b c : String) : String :=
  pad first a ++ " " ++ pad second b ++ " " ++ c

/-! ## Listings -/

def listingRow : String → String → String → String := row 8 40

def itemRow (i : Item) : String :=
  listingRow (toString i.id) i.displayName (i.type.getD blankCell)

def listingFooter (kind : Kind) (shown count : Nat) (page : Int) : String :=
  toString shown ++ " of " ++ toString count ++ " " ++ kind.name
    ++ " (page " ++ toString page ++ ")"

def listingLines (kind : Kind) (rows : List Item) (count : Nat) (page : Int) : List String :=
  listingRow "ID" "NAME" "TYPE" :: rows.map itemRow
    ++ [listingFooter kind rows.length count page]

def listingJson (rows : List Item) (count : Nat) (page : Int) : Json :=
  (Json.object [("count", Json.int count), ("page", Json.int page),
    ("results", .array (rows.map Item.toJson))]).ordered

/-! ## Resources -/

/-- The text of an attribute: a text stands for itself. -/
def attributeText : Json → String
  | .string s => s
  | .null => blankCell
  | j => j.compact

def itemLines (i : Item) : List String :=
  ["id: " ++ toString i.id, "name: " ++ i.displayName]
    ++ (i.type.toList.map fun type => "type: " ++ type)
    ++ (i.extra.toList.map fun (name, value) => name ++ ": " ++ attributeText value)
    ++ if i.canDelete then [] else ["(delete not permitted)"]

/-! ## Schemas -/

/-- The names of the lookups that fit a field; none fit one without a type. -/
def lookupNames (type : Option String) : List String :=
  match type with
  | some type => (Search.Lookup.offered type).map Search.Lookup.name
  | none => []

def schemaRow : String → String → String → String := row 32 12

def fieldRow (key : String) (type : Option String) : String :=
  schemaRow key (type.getD blankCell) (Text.joinText "," (lookupNames type))

def relatedLines : List String → List String
  | [] => []
  | keys => ["related: " ++ Text.joinText ", " keys]

def schemaLines (kind : Kind) (s : Schema) : List String :=
  ["resource: " ++ kind.name, "can add: " ++ (if s.canAdd then "yes" else "no"),
    schemaRow "KEY" "TYPE" "LOOKUPS"]
    ++ (s.searchableKeys.map fun (key, type) => fieldRow key type)
    ++ relatedLines s.relatedKeys

def fieldJson (key : String) (type : Option String) : Json :=
  .object [("key", .string key), ("type", Json.stringOrNull type),
    ("lookups", Json.strings (lookupNames type))]

def schemaJson (kind : Kind) (s : Schema) : Json :=
  .object [("resource", .string kind.name), ("can_add", .bool s.canAdd),
    ("searchable_keys", .array (s.searchableKeys.map fun (key, type) => fieldJson key type)),
    ("related_search_keys", Json.strings s.relatedKeys)]

/-! ## Removals -/

namespace Removal

/-- The counts of what refers to the resources, as far as they are known. -/
def related (r : Removal) : List RelatedCount := r.referrers.toOption.getD []

/-- Why it is not known what refers to the resources. -/
def relatedError? (r : Removal) : Option String :=
  match r.referrers with
  | .ok _ => none
  | .error e => some e.message

/-- The lines that tell what refers to the resources. -/
def referrerLines (r : Removal) : List String :=
  (match r.related with
    | [] => []
    | counts =>
      "referenced by:" :: counts.map fun c => "  " ++ c.label ++ ": " ++ toString c.count)
    ++ r.relatedError?.toList.map fun e => "could not load related resources: " ++ e

/-- The line of a removal that was not confirmed. -/
def intentLine (r : Removal) : String :=
  "would " ++ r.action.name ++ " " ++ toString r.requested.length ++ " " ++ r.kind.name
    ++ " item(s): " ++ joinIds ", " r.requested

def failureLine (f : Batch.ItemFailure ResourceId) : String :=
  "failed [" ++ toString f.id ++ "]: " ++ Text.joinText "; " f.error.messages

def deedLines (r : Removal) : List String :=
  (match r.succeeded with
    | [] => []
    | ids => [r.action.done ++ ": " ++ joinIds ", " ids])
    ++ r.failures.map failureLine

def lines (r : Removal) : List String :=
  r.referrerLines ++ if r.confirmed then r.deedLines else [r.intentLine]

def failureJson (f : Batch.ItemFailure ResourceId) : Json :=
  .object [("id", Json.int f.id), ("messages", Json.strings f.error.messages)]

/-- What refers to the resources as JSON, unless it is nothing. -/
def relatedJson? : List RelatedCount → Option Json
  | [] => none
  | counts => some (.array (counts.map fun c =>
    .object [("label", .string c.label), ("count", Json.int c.count)]))

def idsJson (ids : List ResourceId) : Json := .array (ids.map Json.int)

def toJson (r : Removal) : Json :=
  .object ([("resource", .string r.kind.name), ("action", .string r.action.name),
      ("dry_run", .bool !r.confirmed), ("requested", idsJson r.requested),
      ("succeeded", idsJson r.succeeded), ("failed", .array (r.failures.map failureJson))]
    ++ Json.optional "related" (relatedJson? r.related)
    ++ Json.optional "related_error" (r.relatedError?.map .string))

end Removal

/-! ## Sessions -/

def roles (s : Session) : List String :=
  (if s.me.isSuperuser then ["superuser"] else [])
    ++ (if s.me.isSystemAuditor then ["system auditor"] else [])
    ++ if s.isOrgAdmin then ["organization admin"] else []

/-- The roles in a row; a user without any is a normal one. -/
def rolesText : List String → String
  | [] => "normal user"
  | rs => Text.joinText ", " rs

def sessionLines (s : Session) : List String :=
  ["server: " ++ s.version,
    "user: " ++ s.me.username ++ " (id " ++ toString s.me.id ++ ")",
    "roles: " ++ rolesText (roles s)]

def sessionJson (s : Session) : Json :=
  (Json.object [("version", .string s.version), ("user", s.me.toJson),
    ("is_superuser", .bool s.me.isSuperuser), ("is_system_auditor", .bool s.me.isSystemAuditor),
    ("is_org_admin", .bool s.isOrgAdmin)]).ordered

/-! ## Printing -/

namespace Report

def lines : Report → List String
  | .listing kind rows count page => listingLines kind rows count page
  | .item i => itemLines i
  | .schema kind s => schemaLines kind s
  | .removal r => r.lines
  | .session s => sessionLines s

def toJson : Report → Json
  | .listing _ rows count page => listingJson rows count page
  | .item i => i.toJson
  | .schema kind s => schemaJson kind s
  | .removal r => r.toJson
  | .session s => sessionJson s

/-- What is printed of a report, each text on a line of its own. -/
def printed (r : Report) : OutputFormat → List String
  | .table => r.lines
  | .json => [r.toJson.pretty]

end Report

end Command

end AdminConsole
