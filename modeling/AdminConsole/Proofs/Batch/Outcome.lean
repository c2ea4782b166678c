/-
# `Proofs.Batch.Outcome` — a batch loses no resource

The result of a batch tells its resources apart: those for which all went well,
and the failures.  Together they are the resources of the batch, each as often as
it was there (`perm_of_check_ok`, `perm_of_check_error`).

A batch that settles the state reads back what it has just left there
(`resultOf_accept`), so its ending depends on what it was started with alone.
-/
import AdminConsole.Batch.Run

namespace AdminConsole.Batch

variable {κ : Type}

theorem perm_outcomes (os : List (ItemOutcome κ)) :
    ((os.filter fun o => o.error.isNone).map ItemOutcome.id
      ++ (os.filterMap ItemOutcome.failure?).map ItemFailure.id).Perm (os.map ItemOutcome.id) := by
  induction os with
  | nil => exact List.Perm.refl []
  | cons o os ih =>
      obtain ⟨id, error⟩ := o
      cases error with
      | none => exact ih.cons id
      | some e => exact List.perm_middle.trans (ih.cons id)

theorem perm_of_check_ok {os : List (ItemOutcome κ)} {ids : List κ} (h : check os = .ok ids) :
    ids.Perm (os.map ItemOutcome.id) := by
  have hall := perm_outcomes os
  simp only [check] at h
  split at h
  next hnone =>
      cases h
      rwa [List.isEmpty_iff.mp hnone, List.map_nil, List.append_nil] at hall
  next => cases h

theorem perm_of_check_error {os : List (ItemOutcome κ)} {e : DeletionError κ}
    (h : check os = .error e) :
    e.failures ≠ [] ∧ (e.succeeded ++ e.failedIds).Perm (os.map ItemOutcome.id) := by
  have hall := perm_outcomes os
  simp only [check] at h
  split at h
  next => cases h
  next hsome =>
      cases h
      exact ⟨fun hnone => hsome (List.isEmpty_iff.mpr hnone), hall⟩

/-! ## Both parts of a result -/

def succeededIds : Except (DeletionError κ) (List κ) → List κ
  | .ok ids => ids
  | .error e => e.succeeded

def failedIds : Except (DeletionError κ) (List κ) → List κ
  | .ok _ => []
  | .error e => e.failedIds

theorem succeededIds_check (os : List (ItemOutcome κ)) :
    succeededIds (check os) = (os.filter fun o => o.error.isNone).map ItemOutcome.id := by
  simp only [check]
  split <;> rfl

theorem failedIds_check (os : List (ItemOutcome κ)) :
    failedIds (check os) = (os.filterMap ItemOutcome.failure?).map ItemFailure.id := by
  simp only [check]
  split
  next hnone => rw [List.isEmpty_iff.mp hnone]; rfl
  next => rfl

theorem check_eq_ok_iff (os : List (ItemOutcome κ)) :
    (∃ ids, check os = .ok ids) ↔ failedIds (check os) = [] := by
  constructor
  · rintro ⟨ids, h⟩
    rw [h]
    rfl
  · intro h
    cases hcheck : check os with
    | ok ids => exact ⟨ids, rfl⟩
    | error e =>
        rw [hcheck] at h
        exact absurd (List.map_eq_nil_iff.mp h) (perm_of_check_error hcheck).1

/-! ## Endings -/

/-- What a list does after a batch that nothing has overtaken. -/
def Order.next (scope : Query.Scope) (order : Order κ) : FollowUp :=
  match previousPage? scope order.allSelected order.search with
  | some search => .navigate search
  | none => .refetched

/-- How a batch ends that nothing has overtaken. -/
def Order.ending (scope : Query.Scope) (order : Order κ) : Outcome κ :=
  ⟨check order.outcomes, order.next scope⟩

theorem Order.next_ne_abandoned (scope : Query.Scope) (order : Order κ) :
    order.next scope ≠ .abandoned := by
  simp only [Order.next]
  split
  · exact fun h => by cases h
  · exact fun h => by cases h

theorem resultOf_accept (state : State κ) (reply : Except (DeletionError κ) (List κ)) :
    resultOf (Request.outcomeOf reply) (state.accept reply) = reply := by
  cases reply <;> rfl

theorem followUpOf_outcomeOf (scope : Query.Scope) (order : Order κ)
    (reply : Except (DeletionError κ) (List κ)) :
    followUpOf scope (Request.outcomeOf reply) order = order.next scope := by
  cases reply <;> rfl

end AdminConsole.Batch
