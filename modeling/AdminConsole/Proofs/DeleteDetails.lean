/-
# `Proofs.DeleteDetails` — telling what refers to a resource only reads

The plan for a kind is put together from listings alone: one for each line of the
table, and for workflow nodes one more for each inventory source that was found.
So every contract that lets listings start lets the plan start, whatever the
listings say (`within_deleteDetailsFor`), and what is noted down while it is
carried out reads (`noted_deleteDetailsFor`).
-/
import AdminConsole.DeleteDetails
import AdminConsole.Proofs.Api.Reading

namespace AdminConsole

section Within

variable {K : Contract} (lets : K.LetsList)
include lets

theorem within_listHolding (kind : Kind) (key : String) (id : ResourceId) :
    (listHolding kind key id).Within K := lets _ _

theorem within_nodesOf (sources : List Item) : (nodesOf sources).Within K := by
  refine Plan.within_map (Plan.within_all fun p hp => ?_)
  obtain ⟨source, -, rfl⟩ := List.mem_map.mp hp
  exact within_listHolding lets _ _ source.id

theorem Referrers.within_count (kind : Kind) (id : ResourceId) (r : Referrers) :
    (r.count kind id).Within K := by
  cases r with
  | field target key => exact Plan.within_map (within_listHolding lets target key id)
  | listed name => exact Plan.within_map (lets _ _)
  | nodesOfSources =>
      exact ⟨within_listHolding lets .inventorySources _ id,
        fun page => within_nodesOf lets page.results⟩

omit lets in
theorem within_countLabelled {requests : List (String × Plan Nat)}
    (h : ∀ request ∈ requests, request.2.Within K) : (countLabelled requests).Within K := by
  refine Plan.within_map (Plan.within_all fun p hp => ?_)
  obtain ⟨request, hrequest, rfl⟩ := List.mem_map.mp hp
  exact Plan.within_map (h request hrequest)

theorem within_deleteDetails (kind : Kind) (id : ResourceId) : (deleteDetails kind id).Within K := by
  refine within_countLabelled fun request hrequest => ?_
  obtain ⟨c, -, rfl⟩ := List.mem_map.mp hrequest
  exact c.referrers.within_count lets kind id

theorem within_deleteDetailsFor (kind : Kind) (ids : List ResourceId) :
    (deleteDetailsFor kind ids).Within K := by
  simp only [deleteDetailsFor]
  split
  · exact within_deleteDetails lets kind _
  · trivial

end Within

theorem noted_deleteDetailsFor (kind : Kind) (ids : List ResourceId) (m : Memory) :
    m.Noted (Service.carryOutIn (deleteDetailsFor kind ids) m).2 [] :=
  noted_carryOut (within_deleteDetailsFor (fun _ _ => rfl) kind ids)

end AdminConsole
