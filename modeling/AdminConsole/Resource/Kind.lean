/-
# `Resource.Kind` — the kinds of resources, and where the service keeps them

A kind has a name on the wire, a namespace for its lists and a key by which its
lists are sorted at first.  An endpoint is a path relative to the prefix of the
service and always ends with a slash.
-/
import AdminConsole.Text.Pieces

namespace AdminConsole

inductive Kind where
  | applications
  | credentials
  | credentialInputSources
  | credentialTypes
  | executionEnvironments
  | groups
  | hosts
  | instanceGroups
  | instances
  | inventories
  | inventorySources
  | jobs
  | jobTemplates
  | labels
  | notificationTemplates
  | organizations
  | projects
  | schedules
  | teams
  | unifiedJobTemplates
  | users
  | workflowJobTemplateNodes
  | workflowJobTemplates
  deriving DecidableEq, Repr, Inhabited

namespace Kind

/-- Every kind, in alphabetical order. -/
def all : List Kind :=
  [applications, credentials, credentialInputSources, credentialTypes, executionEnvironments, groups,
   hosts, instanceGroups, instances, inventories, inventorySources, jobs, jobTemplates, labels,
   notificationTemplates, organizations, projects, schedules, teams, unifiedJobTemplates, users,
   workflowJobTemplateNodes, workflowJobTemplates]

/-- The first segment of the kind's paths, which is also its name on the command line. -/
def name : Kind → String
  | applications => "applications"
  | credentials => "credentials"
  | credentialInputSources => "credential_input_sources"
  | credentialTypes => "credential_types"
  | executionEnvironments => "execution_environments"
  | groups => "groups"
  | hosts => "hosts"
  | instanceGroups => "instance_groups"
  | instances => "instances"
  | inventories => "inventories"
  | inventorySources => "inventory_sources"
  | jobs => "jobs"
  | jobTemplates => "job_templates"
  | labels => "labels"
  | notificationTemplates => "notification_templates"
  | organizations => "organizations"
  | projects => "projects"
  | schedules => "schedules"
  | teams => "teams"
  | unifiedJobTemplates => "unified_job_templates"
  | users => "users"
  | workflowJobTemplateNodes => "workflow_job_template_nodes"
  | workflowJobTemplates => "workflow_job_templates"

/-- The namespace of the kind's lists in the search string. -/
def owner : Kind → String
  | applications => "applications"
  | credentials => "credential"
  | credentialInputSources => "credential_input_source"
  | credentialTypes => "credential_type"
  | executionEnvironments => "execution_environments"
  | groups => "group"
  | hosts => "host"
  | instanceGroups => "instance-group"
  | instances => "instance"
  | inventories => "inventory"
  | inventorySources => "inventory_source"
  | jobs => "job"
  | jobTemplates => "job_template"
  | labels => "label"
  | notificationTemplates => "notification-templates"
  | organizations => "organization"
  | projects => "project"
  | schedules => "schedules"
  | teams => "team"
  | unifiedJobTemplates => "template"
  | users => "user"
  | workflowJobTemplateNodes => "workflow_job_template_node"
  | workflowJobTemplates => "workflow_job_template"

/-- The key by which the kind's lists are sorted unless told otherwise. -/
def defaultOrder : Kind → String
  | jobs => "-finished"
  | instances => "hostname"
  | workflowJobTemplateNodes => "id"
  | _ => "name"

/-- The form in which names are compared: no blanks around, small letters, underscores. -/
def normalize (s : String) : String :=
  Text.replaceChar '-' '_' (Text.lower (Text.trim s))

/-- The kind of a name; case, blanks around it and hyphens for underscores do not matter. -/
def ofName? (s : String) : Option Kind := all.find? fun k => k.name == normalize s

/-- The wording for a name that no kind has. -/
def unknownMessage (s : String) : String := "unknown resource '" ++ s ++ "'"

end Kind

/-! ## Endpoints -/

abbrev ResourceId := Int

/-- A path relative to the prefix of the service. -/
structure Endpoint where
  path : String
  deriving DecidableEq, Repr, Inhabited

namespace Endpoint

def collection (k : Kind) : Endpoint := ⟨k.name ++ "/"⟩

def detail (k : Kind) (id : ResourceId) : Endpoint := ⟨k.name ++ "/" ++ toString id ++ "/"⟩

def related (k : Kind) (id : ResourceId) (name : String) : Endpoint :=
  ⟨k.name ++ "/" ++ toString id ++ "/" ++ Text.trimChar '/' name ++ "/"⟩

/-- A fixed place outside the collections. -/
def named (path : String) : Endpoint := ⟨Text.trimChar '/' path ++ "/"⟩

end Endpoint

end AdminConsole
