/-
# `Proofs.DeleteDetails.Timing` — what refers to a resource does not depend on timing

What is told before a resource is deleted is put together from listings, and one
line of the table asks again for each inventory source that the first listing
found.  All of them can be read off the service: which listings there are
(`Referrers.lookups`), and how many resources each line counts
(`Referrers.number`).

So in every order in which the listings are answered the details have one end
(`details_whatever_order`).  They fail exactly if a rule refuses one of these
listings, although it may depend on the order which refusal comes first and which
rules are used up.
-/
import AdminConsole.Proofs.Api.Lookup
import AdminConsole.Proofs.DeleteDetails

namespace AdminConsole

/-! ## What there is to tell -/

/-- The call for the resources of a kind whose field holds a resource. -/
def lookupHolding (kind : Kind) (key : String) (id : ResourceId) : Call (Listing Item) :=
  .list (.collection kind) (holding key id)

/-- The resources of a kind whose field holds a resource, as a listing of those that are kept. -/
def Memory.listingHolding (m : Memory) (kind : Kind) (key : String) (id : ResourceId) :
    Listing Item :=
  m.listing (Endpoint.collection kind).path (holding key id)

/-- The inventory sources that use an execution environment. -/
def Memory.sourcesUsing (m : Memory) (id : ResourceId) : List Item :=
  (m.listingHolding .inventorySources "execution_environment" id).results

/-- How many workflow nodes run a job template, a project or an inventory source. -/
def Memory.nodesRunning (m : Memory) (id : ResourceId) : Nat :=
  (m.listingHolding .workflowJobTemplateNodes "unified_job_template" id).count

namespace Referrers

variable (m : Memory) (kind : Kind) (id : ResourceId)

/-- The listings that a line of the table comes to. -/
def lookups : Referrers → List (Call (Listing Item))
  | .field target key => [lookupHolding target key id]
  | .listed name => [.list (.related kind id name) Dict.empty]
  | .nodesOfSources =>
    lookupHolding .inventorySources "execution_environment" id ::
      (m.sourcesUsing id).map fun source =>
        lookupHolding .workflowJobTemplateNodes "unified_job_template" source.id

/-- How many resources a line of the table counts. -/
def number : Referrers → Nat
  | .field target key => (m.listingHolding target key id).count
  | .listed name => (m.listing (Endpoint.related kind id name).path Dict.empty).count
  | .nodesOfSources =>
    (m.sourcesUsing id).foldr (fun source n => m.nodesRunning source.id + n) 0

end Referrers

namespace Memory

variable (m : Memory) (kind : Kind) (id : ResourceId)

/-- Whether a rule refuses one of the listings that the details of a resource come to. -/
def refusesDetails : Bool :=
  m.refusesAny ((Collaborator.ofKind kind).flatMap fun c => c.referrers.lookups m kind id)

/-- The lines of the table that count any resources, with their numbers. -/
def referring : List RelatedCount :=
  ((Collaborator.ofKind kind).map fun c =>
    RelatedCount.mk c.label (c.referrers.number m kind id)).filter fun c => c.count != 0

/-- The details of a resource: the lines that count any resources, unless there are none. -/
def detailsFor : Option (List RelatedCount) :=
  if m.referring kind id = [] then none else some (m.referring kind id)

end Memory

theorem present?_eq (counts : List RelatedCount) :
    present? counts
      = if counts.filter (fun c => c.count != 0) = [] then none
        else some (counts.filter fun c => c.count != 0) := by
  have hsame : (fun c : RelatedCount => decide (0 < c.count)) = fun c => c.count != 0 := by
    funext c
    rw [Bool.eq_iff_iff, decide_eq_true_iff, bne_iff_ne]
    exact Nat.pos_iff_ne_zero
  simp only [present?]
  rw [hsame]
  split
  next hnone => rw [hnone, if_pos rfl]
  next shown hsome => rw [if_neg hsome]

/-! ## Looking it up -/

namespace Plan.LooksUp

variable {m : Memory}

theorem listHolding (kind : Kind) (key : String) (id : ResourceId) :
    LooksUp m (listHolding kind key id) [lookupHolding kind key id]
      (m.listingHolding kind key id) :=
  .call (.collection kind) (holding key id)

theorem nodesOf (sources : List Item) :
    LooksUp m (nodesOf sources)
      (sources.map fun source =>
        lookupHolding .workflowJobTemplateNodes "unified_job_template" source.id)
      (sources.foldr (fun source n => m.nodesRunning source.id + n) 0) := by
  have hpages : LooksUp m (Plan.all (sources.map _)) _ (sources.map _) :=
    all fun source _ => listHolding .workflowJobTemplateNodes "unified_job_template" source.id
  have hsum := hpages.map fun pages => pages.foldr (fun page n => page.count + n) 0
  rw [← List.map_eq_flatMap, List.foldr_map] at hsum
  exact hsum

theorem count (kind : Kind) (id : ResourceId) (r : Referrers) :
    LooksUp m (r.count kind id) (r.lookups m kind id) (r.number m kind id) := by
  cases r with
  | field target key => exact (listHolding target key id).map Listing.count
  | listed name => exact (call (.related kind id name) Dict.empty).map Listing.count
  | nodesOfSources =>
      exact (listHolding .inventorySources "execution_environment" id).andThen
        (nodesOf (m.sourcesUsing id)) fun lets page => within_nodesOf lets page.results

theorem deleteDetails (kind : Kind) (id : ResourceId) :
    LooksUp m (deleteDetails kind id)
      ((Collaborator.ofKind kind).flatMap fun c => c.referrers.lookups m kind id)
      (m.detailsFor kind id) := by
  have hcounts : LooksUp m (Plan.all ((Collaborator.ofKind kind).map _)) _
      ((Collaborator.ofKind kind).map _) :=
    all fun c _ => (count kind id c.referrers).map (RelatedCount.mk c.label)
  have hshown := hcounts.map present?
  rw [present?_eq] at hshown
  simp only [AdminConsole.deleteDetails, countLabelled, List.map_map]
  exact hshown

end Plan.LooksUp

/-- **What refers to a resource does not depend on timing.**  Whatever calls are held back, and in
whatever order they are let go, the details fail if a rule refuses one of their listings and are
otherwise those of the service as it is kept; and carrying them out is one such order. -/
theorem details_whatever_order (kind : Kind) (id : ResourceId) (m : Memory) (holds : Dict Nat) :
    let plan := deleteDetailsFor kind [id]
    let launched := Flight.launch plan { m with holds }
    launched.1.EndsIn launched.2 (Service.carryOutIn plan { m with holds }).1 ∧
      ∀ r, launched.1.EndsIn launched.2 r →
        (m.refusesDetails kind id = true ∧ ∃ e, r = .error e) ∨
          (m.refusesDetails kind id = false ∧ r = .ok (m.detailsFor kind id)) := by
  intro plan launched
  refine ⟨Flight.endsIn_carryOut plan { m with holds }, ?_⟩
  intro r hr
  have hdetails : Plan.LooksUp m plan _ (m.detailsFor kind id) := .deleteDetails kind id
  have same : m.SameData { m with holds } := ⟨rfl, rfl, rfl, rfl⟩
  exact hdetails.ends same rfl hr

-- two sources use the environment, and three nodes run each of them
example :
    let m : Memory := { Memory.empty with
      rows := Dict.ofList [("inventory_sources/", [.bare 1, .bare 2])]
      counts := Dict.ofList [("workflow_job_template_nodes/", 3)] }
    m.refusesDetails .executionEnvironments 7 = false ∧
      m.detailsFor .executionEnvironments 7 = some [⟨"Workflow Job Template Nodes", 6⟩] :=
  ⟨rfl, rfl⟩

end AdminConsole
