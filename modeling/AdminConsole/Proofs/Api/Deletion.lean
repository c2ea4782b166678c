/-
# `Proofs.Api.Deletion` — deletions answered one after the other

A deletion is answered by the rule that refuses it or by taking its row away.  A
rule that is used is a rule for that one row, since a path tells its row apart
(`detail_path_injective`), and taking one row away leaves the others.  So what
becomes of the other deletions is as it was (`DealtWith.answer`), as long as a
refused row is not deleted twice.
-/
import AdminConsole.Proofs.Api.Memory
import AdminConsole.Proofs.Text.Integer

namespace AdminConsole.Memory

/-- Whether a rule refuses the next deletion of a resource. -/
def refusesDeletion (m : Memory) (k : Kind) (id : ResourceId) : Bool :=
  m.refuses "DELETE" (Endpoint.detail k id).path

/-- The reply to the next deletion of a resource. -/
def deletionReply (m : Memory) (k : Kind) (id : ResourceId) : Except ApiError Unit :=
  match m.refusal? "DELETE" (Endpoint.detail k id).path with
  | some e => .error e
  | none => .ok ()

def withoutRows (gone : List ResourceId) (rows : List Item) : List Item :=
  rows.filter fun i => !gone.contains i.id

/-- A service `m` that was `m₀` before the deletions `done` were answered, where the deletions `left`
are still to be answered as `m₀` would have answered them. -/
structure DealtWith (k : Kind) (m₀ : Memory) (done left : List ResourceId) (m : Memory) : Prop where
  rows : ∀ path, m.rows.get? path = if path = (Endpoint.collection k).path
    then (m₀.rows.get? path).map (withoutRows (done.filter fun id => !m₀.refusesDeletion k id))
    else m₀.rows.get? path
  counts : m.counts = m₀.counts
  schemas : m.schemas = m₀.schemas
  owed : ∀ id ∈ left, m.refusal? "DELETE" (Endpoint.detail k id).path
    = m₀.refusal? "DELETE" (Endpoint.detail k id).path
  others : ∀ method path, method ≠ "DELETE" → m.refusal? method path = m₀.refusal? method path

variable {k : Kind} {m m₀ : Memory} {done left : List ResourceId} {id : ResourceId}

/-! ## Paths and rows -/

theorem detail_path_injective {id' : ResourceId}
    (h : (Endpoint.detail k id).path = (Endpoint.detail k id').path) : id = id' := by
  apply Text.toString_injective
  simpa [Endpoint.detail] using h

theorem withoutRows_nil (rows : List Item) : withoutRows [] rows = rows :=
  List.filter_eq_self.mpr fun _ _ => rfl

theorem withoutRow_withoutRows (id : ResourceId) (gone : List ResourceId) (rows : List Item) :
    withoutRow id (withoutRows gone rows) = withoutRows (id :: gone) rows := by
  simp only [withoutRow, withoutRows]
  rw [List.filter_filter]
  apply List.filter_congr
  intro i _
  rw [List.contains_cons, Bool.not_or]
  rfl

theorem withoutRows_congr {gone gone' : List ResourceId} (h : ∀ id, id ∈ gone ↔ id ∈ gone')
    (rows : List Item) : withoutRows gone rows = withoutRows gone' rows := by
  apply List.filter_congr
  intro i _
  have : gone.contains i.id = gone'.contains i.id := by
    rw [Bool.eq_iff_iff, List.contains_iff_mem, List.contains_iff_mem]
    exact h i.id
  rw [this]

/-! ## One deletion after the other -/

theorem DealtWith.begin (k : Kind) (m : Memory) (left : List ResourceId) :
    DealtWith k m [] left m where
  rows path := by
    split
    · cases m.rows.get? path with
      | none => rfl
      | some rows => exact congrArg some (withoutRows_nil rows).symm
    · rfl
  counts := rfl
  schemas := rfl
  owed _ _ := rfl
  others _ _ _ := rfl

theorem DealtWith.served (h : DealtWith k m₀ done (id :: left) m)
    (hid : m₀.refusesDeletion k id = false) :
    DealtWith k m₀ (id :: done) left
      (m.changeRows (Endpoint.collection k).path (withoutRow id)) where
  rows path := by
    rw [get?_changeRows, h.rows path]
    split
    · rw [Option.map_map, List.filter_cons, hid]
      congr 1
      funext rows
      exact withoutRow_withoutRows _ _ _
    · rfl
  counts := by rw [← h.counts, changeRows]; split <;> rfl
  schemas := by rw [← h.schemas, changeRows]; split <;> rfl
  owed id' hid' := by
    rw [← h.owed id' (List.mem_cons_of_mem _ hid')]
    simp only [refusal?]
    rw [(sameTraffic_changeRows m _ _).2]
  others method path hmethod := by
    rw [← h.others method path hmethod]
    simp only [refusal?]
    rw [(sameTraffic_changeRows m _ _).2]

theorem DealtWith.refused (h : DealtWith k m₀ done (id :: left) m)
    (hid : m₀.refusesDeletion k id = true) (apart : id ∉ left) {e : ApiError}
    {rules : List FailRule}
    (hused : FailRule.useFirst "DELETE" (Endpoint.detail k id).path m.rules = some (e, rules)) :
    DealtWith k m₀ (id :: done) left { m with rules } where
  rows path := by
    rw [List.filter_cons, hid]
    exact h.rows path
  counts := h.counts
  schemas := h.schemas
  owed id' hid' := by
    rw [← h.owed id' (List.mem_cons_of_mem _ hid')]
    apply FailRule.useFirst_of_ne hused
    intro he
    have hsame := detail_path_injective (Prod.ext_iff.mp he).2
    exact apart (hsame ▸ hid')
  others method path hmethod := by
    rw [← h.others method path hmethod]
    apply FailRule.useFirst_of_ne hused
    exact fun he => hmethod (Prod.ext_iff.mp he).1

/-- The next deletion is answered as it was owed. -/
theorem DealtWith.answer (h : DealtWith k m₀ done (id :: left) m)
    (apart : m₀.refusesDeletion k id = true → id ∉ left) :
    (m.answer (.destroy k id)).1 = m₀.deletionReply k id ∧
      DealtWith k m₀ (id :: done) left (m.answer (.destroy k id)).2 := by
  have howed := h.owed id List.mem_cons_self
  have hrefuses := isSome_refusal? m₀ "DELETE" (Endpoint.detail k id).path
  simp only [deletionReply]
  rw [← howed]
  rw [← howed] at hrefuses
  simp only [Memory.answer, refusal?] at hrefuses ⊢
  cases hused : FailRule.useFirst "DELETE" (Endpoint.detail k id).path m.rules with
  | none =>
      rw [hused] at hrefuses
      simp only [Call.method, Call.endpoint, hused]
      exact ⟨rfl, h.served hrefuses.symm⟩
  | some used =>
      rw [hused] at hrefuses
      simp only [Call.method, Call.endpoint, hused]
      exact ⟨rfl, h.refused hrefuses.symm (apart hrefuses.symm) hused⟩

end AdminConsole.Memory
