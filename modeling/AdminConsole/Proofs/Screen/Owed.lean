/-
# `Proofs.Screen.Owed` — each call of a fan-out is answered once

A fan-out is bound to its outcomes at the start: for each of its resources the
service owes one answer, and it does not matter which it gives first.  What is
owed is a list of resources that gets shorter by one with each answer and is
otherwise only permuted (`Owing`).  This is more than a contract says, since a
contract cannot tell whether a call has been answered before; an answer may use
up a rule, and then a second one to the same call would be another.

A fan-out on its way is a row of parts, each answered already or still waiting
(`Waits`).  A move answers some of those that wait, so what is owed to the rest
stays owed, and in the end nothing is (`carryOut_owed`).  The outcomes are in the
order of the resources because the parts are.
-/
import AdminConsole.Proofs.Screen.FanOut

namespace AdminConsole.Screen

open Batch (ItemOutcome)

/-- A service that owes an answer to one call for each resource of a list: `reply` tells which, and
`owes` what holds of the service until all of them have been given. -/
structure Owing (call : ResourceId → Call Unit) (reply : ResourceId → Except ApiError Unit)
    (owes : List ResourceId → Memory → Prop) : Prop where
  perm : ∀ {left left' m}, left.Perm left' → owes left m → owes left' m
  note : ∀ {left m r}, owes left m → owes left (m.note r)
  hold : ∀ {left m method}, owes left m → owes left (m.hold method).2
  release : ∀ {left m m'}, owes left m → m.release? = some m' → owes left m'
  answer : ∀ {id left m}, owes (id :: left) m →
    (m.answer (call id)).1 = reply id ∧ owes left (m.answer (call id)).2

/-- The outcome that a resource will have. -/
def owedOutcome (reply : ResourceId → Except ApiError Unit) (id : ResourceId) :
    ItemOutcome ResourceId := ItemOutcome.ofResult id (reply id)

/-- The part of a fan-out for one resource, on its way: what it still waits for. -/
inductive ItemWaits (call : ResourceId → Call Unit) (reply : ResourceId → Except ApiError Unit)
    (id : ResourceId) : List ResourceId → Flight (ItemOutcome ResourceId) → Prop
  | answered : ItemWaits call reply id [] (.landed (.ok (owedOutcome reply id)))
  | waiting (ticket : Nat) : ItemWaits call reply id [id]
      (.andThen (.attempt (.waiting ticket (call id))) fun r => .done (ItemOutcome.ofResult id r))

/-- A fan-out on its way: its resources, and those for which it still waits. -/
inductive Waits (call : ResourceId → Call Unit) (reply : ResourceId → Except ApiError Unit) :
    List ResourceId → List ResourceId → Flight (List (ItemOutcome ResourceId)) → Prop
  | answered (ids : List ResourceId) :
      Waits call reply ids [] (.landed (.ok (ids.map (owedOutcome reply))))
  | beside {id : ResourceId} {ids left lefts : List ResourceId}
      {f : Flight (ItemOutcome ResourceId)} {fs : Flight (List (ItemOutcome ResourceId))} :
      ItemWaits call reply id left f → Waits call reply ids lefts fs →
      Waits call reply (id :: ids) (left ++ lefts) (.beside f fs)
  | inTurn {id : ResourceId} {ids left lefts : List ResourceId}
      {f : Flight (ItemOutcome ResourceId)} {fs : Flight (List (ItemOutcome ResourceId))} :
      ItemWaits call reply id left f → Waits call reply ids lefts fs →
      Waits call reply (id :: ids) (left ++ lefts) (.inTurn f fs)

/-- A fan-out on its way to what it is owed. -/
def UnderWay (call : ResourceId → Call Unit) (reply : ResourceId → Except ApiError Unit)
    (owes : List ResourceId → Memory → Prop) (ids : List ResourceId)
    (fs : Flight (List (ItemOutcome ResourceId))) (m : Memory) : Prop :=
  ∃ left, Waits call reply ids left fs ∧ owes left m

variable {call : ResourceId → Call Unit} {reply : ResourceId → Except ApiError Unit}
  {owes : List ResourceId → Memory → Prop}

/-! ## One resource -/

section Item

variable {id : ResourceId} {left rest : List ResourceId} {f : Flight (ItemOutcome ResourceId)}
  {m : Memory}

theorem ItemWaits.failure? (h : ItemWaits call reply id left f) : f.failure? = none := by
  cases h <;> rfl

theorem start_itemPlan_waits (h : Owing call reply owes) (hm : owes (id :: rest) m) :
    ∃ left, ItemWaits call reply id left (Flight.start false (itemPlan call id) m).1 ∧
      owes (left ++ rest) (Flight.start false (itemPlan call id) m).2 := by
  have hnoted : owes (id :: rest) (m.note (call id).record) := h.note hm
  simp only [itemPlan, Plan.map, Flight.start]
  rcases startCall_cases (call id) m with ⟨ticket, hstart⟩ | hstart
  · rw [hstart]
    exact ⟨[id], .waiting ticket, h.hold hnoted⟩
  · obtain ⟨hreply, howes⟩ := h.answer hnoted
    rw [hstart, hreply]
    exact ⟨[], .answered, howes⟩

theorem ItemWaits.advance (hf : ItemWaits call reply id left f) (h : Owing call reply owes)
    (hm : owes (left ++ rest) m) :
    ∃ left', ItemWaits call reply id left' (Flight.advance false f m).1 ∧
      owes (left' ++ rest) (Flight.advance false f m).2 := by
  cases hf with
  | answered => exact ⟨[], .answered, hm⟩
  | waiting ticket =>
      simp only [Flight.advance]
      cases hheld : m.isHeld ticket with
      | true => exact ⟨[id], .waiting ticket, hm⟩
      | false =>
          obtain ⟨hreply, howes⟩ := h.answer hm
          simp only [Bool.false_eq_true, if_false, hreply]
          exact ⟨[], .answered, howes⟩

end Item

/-! ## Rows of resources -/

section Rows

variable {id : ResourceId} {ids left lefts rest : List ResourceId}
  {f : Flight (ItemOutcome ResourceId)} {fs : Flight (List (ItemOutcome ResourceId))} {m : Memory}

theorem ItemWaits.prepend (hf : ItemWaits call reply id left f) (hfs : Waits call reply ids lefts fs) :
    Waits call reply (id :: ids) (left ++ lefts) (Flight.prepend f fs) := by
  cases hf with
  | waiting ticket =>
      cases hfs with
      | answered => exact .beside (.waiting ticket) (.answered ids)
      | beside hg hgs => exact .beside (.waiting ticket) (.beside hg hgs)
      | inTurn hg hgs => exact .beside (.waiting ticket) (.inTurn hg hgs)
  | answered =>
      cases hfs with
      | answered => exact .answered (id :: ids)
      | beside hg hgs => exact .beside .answered (.beside hg hgs)
      | inTurn hg hgs => exact .beside .answered (.inTurn hg hgs)

theorem ItemWaits.queue (hf : ItemWaits call reply id left f) (hfs : Waits call reply ids lefts fs)
    (b : Bool) : Waits call reply (id :: ids) (left ++ lefts) (Flight.queue b f fs) := by
  cases b with
  | true => exact .inTurn hf hfs
  | false =>
      cases hf with
      | waiting ticket => exact .inTurn (.waiting ticket) hfs
      | answered =>
          cases hfs with
          | answered => exact .answered (id :: ids)
          | beside hg hgs => exact .inTurn .answered (.beside hg hgs)
          | inTurn hg hgs => exact .inTurn .answered (.inTurn hg hgs)

theorem owes_first (h : Owing call reply owes) (hm : owes (left ++ (lefts ++ rest)) m) :
    owes (lefts ++ (left ++ rest)) m :=
  h.perm (List.perm_append_comm_assoc left lefts rest) hm

theorem owes_row (h : Owing call reply owes) (hm : owes (lefts ++ (left ++ rest)) m) :
    owes (left ++ lefts ++ rest) m := by
  rw [List.append_assoc]
  exact h.perm (List.perm_append_comm_assoc lefts left rest) hm

theorem start_allBeside_waits (h : Owing call reply owes) (ids : List ResourceId) :
    ∀ (rest : List ResourceId) (m : Memory), owes (ids ++ rest) m →
      ∃ left, Waits call reply ids left
          (Flight.start false (Plan.allBeside (ids.map (itemPlan call))) m).1 ∧
        owes (left ++ rest)
          (Flight.start false (Plan.allBeside (ids.map (itemPlan call))) m).2 := by
  induction ids with
  | nil => exact fun _ _ hm => ⟨[], .answered [], hm⟩
  | cons id ids ih =>
      intro rest m hm
      obtain ⟨left, hf, hfirst⟩ := start_itemPlan_waits h hm
      obtain ⟨lefts, hfs, hrow⟩ := ih _ _ (owes_first h hfirst)
      simp only [List.map_cons, Plan.allBeside, Flight.start, hf.failure?]
      exact ⟨left ++ lefts, hf.prepend hfs, owes_row h hrow⟩

theorem start_allInTurn_waits (h : Owing call reply owes) (ids : List ResourceId) :
    ∀ (b : Bool) (rest : List ResourceId) (m : Memory), owes (ids ++ rest) m →
      ∃ left, Waits call reply ids left
          (Flight.start b (Plan.allInTurn (ids.map (itemPlan call))) m).1 ∧
        owes (left ++ rest)
          (Flight.start b (Plan.allInTurn (ids.map (itemPlan call))) m).2 := by
  induction ids with
  | nil => exact fun _ _ _ hm => ⟨[], .answered [], hm⟩
  | cons id ids ih =>
      intro b rest m hm
      obtain ⟨left, hf, hfirst⟩ := start_itemPlan_waits h hm
      obtain ⟨lefts, hfs, hrow⟩ :=
        ih (b || (Flight.start false (itemPlan call id) m).1.blocks) _ _ (owes_first h hfirst)
      simp only [List.map_cons, Plan.allInTurn, Flight.start, hf.failure?]
      exact ⟨left ++ lefts, hf.queue hfs b, owes_row h hrow⟩

/-- A fan-out that moves on waits for fewer answers, and these stay owed. -/
theorem Waits.advance (hfs : Waits call reply ids left fs) (h : Owing call reply owes) :
    ∀ (b : Bool) (rest : List ResourceId) (m : Memory), owes (left ++ rest) m →
      ∃ left', Waits call reply ids left' (Flight.advance b fs m).1 ∧
        owes (left' ++ rest) (Flight.advance b fs m).2 := by
  induction hfs with
  | answered ids => exact fun _ _ _ hm => ⟨[], .answered ids, hm⟩
  | beside hf hfs ih =>
      intro b rest m hm
      rw [List.append_assoc] at hm
      obtain ⟨left, hf', hfirst⟩ := hf.advance h hm
      obtain ⟨lefts, hfs', hrow⟩ := ih false _ _ (owes_first h hfirst)
      simp only [Flight.advance, hf'.failure?]
      exact ⟨left ++ lefts, hf'.prepend hfs', owes_row h hrow⟩
  | @inTurn id ids _ _ f fs hf hfs ih =>
      intro b rest m hm
      rw [List.append_assoc] at hm
      obtain ⟨left, hf', hfirst⟩ := hf.advance h hm
      obtain ⟨lefts, hfs', hrow⟩ :=
        ih (b || (Flight.advance false f m).1.blocks) _ _ (owes_first h hfirst)
      simp only [Flight.advance, hf'.failure?]
      exact ⟨left ++ lefts, hf'.queue hfs' b, owes_row h hrow⟩

end Rows

/-! ## The whole fan-out -/

theorem UnderWay.launch (h : Owing call reply owes) {ids : List ResourceId} {m : Memory}
    (hm : owes ids m) : UnderWay call reply owes ids (Flight.launch (fanOut call ids) m).1
      (Flight.launch (fanOut call ids) m).2 := by
  have hall : owes (ids ++ []) m := by rwa [List.append_nil]
  obtain ⟨left, hwaits, howes⟩ :
      ∃ left, Waits call reply ids left (Flight.launch (fanOut call ids) m).1 ∧
        owes (left ++ []) (Flight.launch (fanOut call ids) m).2 := by
    rw [fanOut_eq]
    simp only [Plan.all, Flight.launch]
    split
    · exact start_allBeside_waits h ids [] m hall
    · exact start_allInTurn_waits h ids false [] m hall
  rw [List.append_nil] at howes
  exact ⟨left, hwaits, howes⟩

theorem UnderWay.poll (h : Owing call reply owes) {ids : List ResourceId}
    {fs : Flight (List (ItemOutcome ResourceId))} {m m' : Memory}
    (hfs : UnderWay call reply owes ids fs m) (hrelease : m.release? = some m') :
    UnderWay call reply owes ids (fs.poll m').1 (fs.poll m').2 := by
  obtain ⟨left, hwaits, howes⟩ := hfs
  have hreleased : owes (left ++ []) m' := by
    rw [List.append_nil]
    exact h.release howes hrelease
  obtain ⟨left', hwaits', howes'⟩ := hwaits.advance h false [] m' hreleased
  rw [List.append_nil] at howes'
  exact ⟨left', hwaits', howes'⟩

/-- **A fan-out gets what it is owed.**  Each resource has the outcome that is owed to it, in the order
of the resources, and nothing is owed any more. -/
theorem carryOut_owed (h : Owing call reply owes) {ids : List ResourceId} {m : Memory}
    (hm : owes ids m) :
    (Service.carryOutIn (fanOut call ids) m).1 = .ok (ids.map (owedOutcome reply)) ∧
      owes [] (Service.carryOutIn (fanOut call ids) m).2 := by
  obtain ⟨waits, r, m', hcarry, left, hlanded, howes⟩ :=
    Flight.carryOut_ends (fun _ => UnderWay.poll h) (UnderWay.launch h hm)
  simp only [Service.carryOutIn]
  rw [hcarry]
  cases hlanded with
  | answered => exact ⟨rfl, howes⟩

end AdminConsole.Screen
