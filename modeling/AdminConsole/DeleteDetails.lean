/-
# `DeleteDetails` — what refers to a resource, told before it is deleted

For each kind there is a table of the collections whose resources may refer to
it.  Every one of them is counted, and those with a count other than zero are
shown in the order of the table.
-/
import AdminConsole.Api.Plan

namespace AdminConsole

open Query (Params)

/-- How the resources that refer to one are found. -/
inductive Referrers where
  /-- Those of a kind whose field holds the resource. -/
  | field (kind : Kind) (key : String)
  /-- Those listed under the resource itself. -/
  | listed (name : String)
  /-- The workflow nodes that run an inventory source which uses the resource. -/
  | nodesOfSources
  deriving DecidableEq, Repr

/-- A line of the table: what the referring resources are called and how they are found. -/
structure Collaborator where
  label : String
  referrers : Referrers
  deriving DecidableEq, Repr

/-- How many resources refer to one. -/
structure RelatedCount where
  label : String
  count : Nat
  deriving DecidableEq, Repr

namespace Collaborator

/-- Resources of a kind whose field holds the resource. -/
def byField (label : String) (kind : Kind) (key : String) : Collaborator := ⟨label, .field kind key⟩

/-- Nodes of workflows that run the resource. -/
def workflowNodes : Collaborator :=
  byField "Workflow Job Template Nodes" .workflowJobTemplateNodes "unified_job_template"

def ofKind : Kind → List Collaborator
  | .credentials =>
    [byField "Job Templates" .jobTemplates "credentials",
     byField "Projects" .projects "credentials",
     byField "Inventory Sources" .inventorySources "credentials__id",
     byField "Credential Input Sources" .credentialInputSources "source_credential",
     byField "Execution Environments" .executionEnvironments "credential"]
  | .credentialTypes => [byField "Credentials" .credentials "credential_type__id"]
  | .inventories =>
    [byField "Job Templates" .jobTemplates "inventory",
     byField "Workflow Job Templates" .workflowJobTemplates "inventory"]
  | .inventorySources =>
    [workflowNodes, ⟨"Groups", .listed "groups"⟩, ⟨"Hosts", .listed "hosts"⟩]
  | .projects =>
    [byField "Job Templates" .jobTemplates "project",
     workflowNodes,
     byField "Inventory Sources" .inventorySources "source_project"]
  | .jobTemplates | .workflowJobTemplates | .unifiedJobTemplates => [workflowNodes]
  | .organizations =>
    [byField "Credentials" .credentials "organization",
     byField "Teams" .teams "organization",
     byField "Notification Templates" .notificationTemplates "organization",
     byField "Execution Environments" .executionEnvironments "organization",
     byField "Projects" .projects "organization",
     byField "Inventories" .inventories "organization",
     byField "Applications" .applications "organization"]
  | .executionEnvironments =>
    [byField "Templates" .unifiedJobTemplates "execution_environment",
     byField "Projects" .projects "default_environment",
     byField "Organizations" .organizations "default_environment",
     ⟨"Workflow Job Template Nodes", .nodesOfSources⟩]
  | .instanceGroups =>
    [byField "Organizations" .organizations "instance_groups",
     byField "Inventories" .inventories "instance_groups",
     byField "Templates" .unifiedJobTemplates "instance_groups"]
  | .instances => [byField "Instance Groups" .instanceGroups "instances"]
  | .applications | .credentialInputSources | .groups | .hosts | .jobs | .labels
  | .notificationTemplates | .schedules | .teams | .users | .workflowJobTemplateNodes => []

end Collaborator

/-! ## Counting -/

/-- The params that ask for a field to hold a resource. -/
def holding (key : String) (id : ResourceId) : Params := Dict.empty.insert key (.one (.int id))

def listHolding (kind : Kind) (key : String) (id : ResourceId) : Plan (Listing Item) :=
  .call (.list (.collection kind) (holding key id))

/-- How many nodes of workflows run some inventory sources. -/
def nodesOf (sources : List Item) : Plan Nat :=
  (Plan.all (sources.map fun source =>
    listHolding .workflowJobTemplateNodes "unified_job_template" source.id)).map fun pages =>
      pages.foldr (fun page n => page.count + n) 0

namespace Referrers

/-- How many resources refer to one of a kind. -/
def count (kind : Kind) (id : ResourceId) : Referrers → Plan Nat
  | .field target key => (listHolding target key id).map Listing.count
  | .listed name => (Plan.call (.list (.related kind id name) Dict.empty)).map Listing.count
  | .nodesOfSources =>
    (listHolding .inventorySources "execution_environment" id).andThen fun page =>
      nodesOf page.results

end Referrers

/-- The counts other than zero, if there are any. -/
def present? (counts : List RelatedCount) : Option (List RelatedCount) :=
  match counts.filter fun c => 0 < c.count with
  | [] => none
  | shown => some shown

def countLabelled (requests : List (String × Plan Nat)) : Plan (Option (List RelatedCount)) :=
  (Plan.all (requests.map fun (label, plan) => plan.map (RelatedCount.mk label))).map present?

/-- What refers to a resource. -/
def deleteDetails (kind : Kind) (id : ResourceId) : Plan (Option (List RelatedCount)) :=
  countLabelled ((Collaborator.ofKind kind).map fun c => (c.label, c.referrers.count kind id))

/-- What refers to the only resource of a selection; nothing is looked up for several. -/
def deleteDetailsFor (kind : Kind) : List ResourceId → Plan (Option (List RelatedCount))
  | [id] => deleteDetails kind id
  | _ => .done none

end AdminConsole
