/-
# `Session` — who is signed in, and what the server is

A session may fail to load, and so may a list: the service does not know the
user, a call fails otherwise, a list's namespace is unusable, or the settings
are.
-/
import AdminConsole.Api.Error
import AdminConsole.Api.Plan
import AdminConsole.Console.Config
import AdminConsole.Query.Scope

namespace AdminConsole

/-! ## Errors -/

/-- What can go wrong for a session or a list. -/
inductive ConsoleError where
  | unauthorized (e : ApiError)
  | api (e : ApiError)
  | query (e : Query.ScopeError)
  | config (e : ConfigError)

namespace ConsoleError

/-- A failed call, told apart by whether the credentials were at fault. -/
def ofApi (e : ApiError) : ConsoleError := if e.isUnauthorized then .unauthorized e else .api e

def toText : ConsoleError → String
  | .unauthorized e => "session is not authorized: " ++ e.toText
  | .api e => e.toText
  | .query e => e.message
  | .config e => e.message

def messages : ConsoleError → List String
  | .unauthorized e => e.messages
  | .api e => e.messages
  | .query e => [e.message]
  | .config e => [e.message]

end ConsoleError

/-! ## Sessions -/

/-- Facts that are loaded once. -/
structure Session where
  version : String
  me : Me
  adminOrganizations : Nat
  deriving DecidableEq, Repr

namespace Session

/-- The params that ask for one row, since only the count matters. -/
def oneRow : Query.Params := Dict.empty.insert Query.pageSizeField (.one (.int 1))

/-- Where the organizations that a user administers are listed. -/
def adminEndpoint (me : Me) : Endpoint := .related .users me.id "admin_of_organizations"

/-- Load the facts: server and user side by side, then the organizations. -/
def load : Plan Session :=
  (Plan.both .serverConfig .currentUser).andThen fun (config, me) =>
    (Plan.call (.list (adminEndpoint me) oneRow)).map fun page =>
      ⟨config.version, me, page.count⟩

/-- A loaded session, or what kept it from loading. -/
def ofResult : Except ApiError Session → Except ConsoleError Session
  | .ok session => .ok session
  | .error e => .error (.ofApi e)

def isOrgAdmin (s : Session) : Bool := 0 < s.adminOrganizations

end Session

end AdminConsole
