/-
# `Proofs.Screen.FanOut` — doing one thing to many resources

A fan-out makes one call for each resource, and since each call is only attempted,
no failure keeps another call from being made.  All calls are made, and noted
down, at the very start and in the order of the resources; what comes later is
only waiting (`carryOut_fanOut`).  Whatever the replies are, there is one outcome
for each resource, in that order (`outcome_fanOut`).

How many resources there are decides between two kinds of fan-out.  They differ in
which failure counts first, which makes no difference where nothing fails.
-/
import AdminConsole.Proofs.Api.Contract
import AdminConsole.Screen.Operation

namespace AdminConsole

open Batch (ItemOutcome)

/-- Nothing is called any more, so nothing is noted. -/
def Contract.silent (log : List CallRecord) : Contract where
  starts _ := False
  waits _ := True
  holds m := m.log = log
  replies := anyReply
  breaks := False

theorem Contract.kept_silent (log : List CallRecord) : (silent log).Kept where
  waits _ := trivial
  note _ h := h.elim
  hold h := h
  release := by
    intro m m' h hrelease
    obtain ⟨_, _, -, rfl⟩ := Memory.release?_eq_some hrelease
    exact h
  answer := by
    rintro α c m h -
    exact .inl ⟨(m.sameTraffic_answer c).log.trans h, trivial⟩

theorem log_carryOut {α : Type} {p : Plan α} {m : Memory}
    (h : ∀ log, (Flight.launch p m).1.Within (Contract.silent log)) :
    (Service.carryOutIn p m).2.log = (Flight.launch p m).2.log := by
  have hlaunch : Flight.Along (Contract.silent (Flight.launch p m).2.log) (fun _ => True)
      (Flight.launch p m).1 (Flight.launch p m).2 := ⟨h _, .inl ⟨rfl, fun _ _ => trivial⟩⟩
  obtain ⟨waits, r, m', hcarry, hend⟩ :=
    Flight.carryOut_ends (fun _ => Flight.Along.poll (Contract.kept_silent _)) hlaunch
  simp only [Service.carryOutIn]
  rw [hcarry]
  rcases hend.ended with ⟨hlog, -⟩ | ⟨hfalse, -⟩
  · exact hlog
  · exact hfalse.elim

namespace Screen

/-- The part of a fan-out for one resource. -/
def itemPlan (call : ResourceId → Call Unit) (id : ResourceId) : Plan (ItemOutcome ResourceId) :=
  (Plan.call (call id)).attempt.map (ItemOutcome.ofResult id)

variable {call : ResourceId → Call Unit} {ids : List ResourceId}

theorem fanOut_eq (call : ResourceId → Call Unit) (ids : List ResourceId) :
    fanOut call ids = Plan.all (ids.map (itemPlan call)) := rfl

/-! ## Outcomes -/

section Outcomes

variable {replies : {α : Type} → Call α → Except ApiError α → Prop}

theorem outcome_itemPlan {id : ResourceId} {r : Except ApiError (ItemOutcome ResourceId)}
    (h : (itemPlan call id).Outcome replies r) : ∃ o, r = .ok o ∧ o.id = id := by
  rcases h with ⟨s, -, rfl⟩ | ⟨e, ⟨s, -, hs⟩, -⟩
  · refine ⟨_, rfl, ?_⟩
    cases s <;> rfl
  · cases hs

theorem joined_items {id : ResourceId} {P : Except ApiError (ItemOutcome ResourceId) → Prop}
    {Ps : Except ApiError (List (ItemOutcome ResourceId)) → Prop}
    {r : Except ApiError (List (ItemOutcome ResourceId))}
    (hP : ∀ s, P s → ∃ o, s = .ok o ∧ o.id = id)
    (hPs : ∀ s, Ps s → ∃ os, s = .ok os ∧ os.map ItemOutcome.id = ids)
    (h : Joined P Ps List.cons r) : ∃ os, r = .ok os ∧ os.map ItemOutcome.id = id :: ids := by
  rcases h with ⟨o, os, ho, hos, rfl⟩ | ⟨e, he | he, -⟩
  · obtain ⟨_, heq, hid⟩ := hP _ ho
    obtain ⟨_, heqs, hids⟩ := hPs _ hos
    cases heq
    cases heqs
    exact ⟨o :: os, rfl, by rw [List.map_cons, hid, hids]⟩
  · obtain ⟨_, heq, -⟩ := hP _ he
    cases heq
  · obtain ⟨_, heq, -⟩ := hPs _ he
    cases heq

theorem outcome_allBeside {r : Except ApiError (List (ItemOutcome ResourceId))}
    (h : (Plan.allBeside (ids.map (itemPlan call))).Outcome replies r) :
    ∃ os, r = .ok os ∧ os.map ItemOutcome.id = ids := by
  induction ids generalizing r with
  | nil => exact ⟨[], h, rfl⟩
  | cons id ids ih => exact joined_items (fun _ => outcome_itemPlan) (fun _ => ih) h

theorem outcome_allInTurn {r : Except ApiError (List (ItemOutcome ResourceId))}
    (h : (Plan.allInTurn (ids.map (itemPlan call))).Outcome replies r) :
    ∃ os, r = .ok os ∧ os.map ItemOutcome.id = ids := by
  induction ids generalizing r with
  | nil => exact ⟨[], h, rfl⟩
  | cons id ids ih => exact joined_items (fun _ => outcome_itemPlan) (fun _ => ih) h

theorem outcome_fanOut {r : Except ApiError (List (ItemOutcome ResourceId))}
    (h : (fanOut call ids).Outcome replies r) :
    ∃ os, r = .ok os ∧ os.map ItemOutcome.id = ids := by
  rw [fanOut_eq] at h
  simp only [Plan.all] at h
  split at h
  · exact outcome_allBeside h
  · exact outcome_allInTurn h

end Outcomes

/-! ## The start -/

theorem startCall_cases {α : Type} (c : Call α) (m : Memory) :
    (∃ ticket, Flight.startCall c m
        = (.waiting ticket c, ((m.note c.record).hold c.method).2)) ∨
      Flight.startCall c m
        = (.landed ((m.note c.record).answer c).1, ((m.note c.record).answer c).2) := by
  unfold Flight.startCall
  simp only
  split
  · exact .inl ⟨_, rfl⟩
  · exact .inr rfl

theorem log_startCall {α : Type} (c : Call α) (m : Memory) :
    (Flight.startCall c m).2.log = m.log ++ [c.record] := by
  rcases startCall_cases c m with ⟨ticket, h⟩ | h
  · rw [h]
    rfl
  · rw [h]
    exact ((m.note c.record).sameTraffic_answer c).log

theorem silent_startCall {α : Type} (c : Call α) (m : Memory) (log : List CallRecord) :
    (Flight.startCall c m).1.Within (Contract.silent log) := by
  rcases startCall_cases c m with ⟨ticket, h⟩ | h
  · rw [h]
    trivial
  · rw [h]
    trivial

theorem outcome?_attempted {α : Type} (f : Flight α) (e : ApiError) :
    f.attempted.outcome? ≠ some (.error e) := by
  simp only [Flight.attempted]
  split
  · exact fun h => by cases h
  · exact fun h => by cases h

/-- A fan-out on its way: its calls have been noted, it has not failed, and it only waits. -/
structure Fanned {α : Type} (m : Memory) (records : List CallRecord) (moved : Flight α × Memory) :
    Prop where
  log : moved.2.log = m.log ++ records
  failure : moved.1.failure? = none
  within : ∀ log, moved.1.Within (Contract.silent log)

theorem start_itemPlan (call : ResourceId → Call Unit) (id : ResourceId) (m : Memory) :
    Fanned m [(call id).record] (Flight.start false (itemPlan call id) m) := by
  have hlog := log_startCall (call id) m
  simp only [itemPlan, Plan.map, Flight.start]
  split
  next a ho => exact ⟨hlog, rfl, fun _ => trivial⟩
  next e ho => exact absurd ho (outcome?_attempted _ e)
  next =>
      exact ⟨hlog, rfl, fun log =>
        ⟨Flight.within_attempted (fun h => h) (silent_startCall (call id) m log), fun _ => trivial⟩⟩

section Together

variable {m m₁ m₂ : Memory} {rs ss : List CallRecord} {α : Type} {f : Flight α}
  {fs : Flight (List α)}

theorem failure?_prepend (hf : f.failure? = none) (hfs : fs.failure? = none) :
    (Flight.prepend f fs).failure? = none := by
  simp only [Flight.prepend]
  split
  · rfl
  next e ho =>
      simp only [Flight.failure?] at hf
      rw [ho] at hf
      cases hf
  next e ho _ =>
      simp only [Flight.failure?] at hfs
      rw [ho] at hfs
      cases hfs
  · rfl

theorem failure?_queue (hfs : fs.failure? = none) (b : Bool) :
    (Flight.queue b f fs).failure? = none := by
  simp only [Flight.queue]
  split
  · rfl
  next e _ ho =>
      simp only [Flight.failure?] at hfs
      rw [ho] at hfs
      cases hfs
  · rfl

theorem Fanned.prepend (hf : Fanned m rs (f, m₁)) (hfs : Fanned m₁ ss (fs, m₂)) :
    Fanned m (rs ++ ss) (Flight.prepend f fs, m₂) where
  log := by rw [hfs.log, hf.log, List.append_assoc]
  failure := failure?_prepend hf.failure hfs.failure
  within log := Flight.within_prepend (hf.within log) (hfs.within log)

theorem Fanned.queue (hf : Fanned m rs (f, m₁)) (hfs : Fanned m₁ ss (fs, m₂)) (b : Bool) :
    Fanned m (rs ++ ss) (Flight.queue b f fs, m₂) where
  log := by rw [hfs.log, hf.log, List.append_assoc]
  failure := failure?_queue hfs.failure b
  within log := Flight.within_queue (hf.within log) (hfs.within log) b

theorem Fanned.nil (m : Memory) : Fanned m [] (Flight.landed (.ok ([] : List α)), m) where
  log := (List.append_nil _).symm
  failure := rfl
  within _ := trivial

end Together

theorem start_allBeside (call : ResourceId → Call Unit) (ids : List ResourceId) (m : Memory) :
    Fanned m (ids.map fun id => (call id).record)
      (Flight.start false (Plan.allBeside (ids.map (itemPlan call))) m) := by
  induction ids generalizing m with
  | nil => exact Fanned.nil m
  | cons id ids ih =>
      have hitem := start_itemPlan call id m
      simp only [List.map_cons, Plan.allBeside, Flight.start, hitem.failure]
      exact hitem.prepend (ih _)

/-- A part that is blocked by earlier ones makes its call all the same. -/
theorem start_allInTurn (call : ResourceId → Call Unit) (ids : List ResourceId) :
    ∀ (b : Bool) (m : Memory), Fanned m (ids.map fun id => (call id).record)
      (Flight.start b (Plan.allInTurn (ids.map (itemPlan call))) m) := by
  induction ids with
  | nil => exact fun _ m => Fanned.nil m
  | cons id ids ih =>
      intro b m
      have hitem := start_itemPlan call id m
      simp only [List.map_cons, Plan.allInTurn, Flight.start, hitem.failure]
      exact hitem.queue (ih _ _) b

/-- The calls of a fan-out are all made at the start, in the order of the resources. -/
theorem launch_fanOut (call : ResourceId → Call Unit) (ids : List ResourceId) (m : Memory) :
    Fanned m (ids.map fun id => (call id).record) (Flight.launch (fanOut call ids) m) := by
  rw [fanOut_eq]
  simp only [Plan.all, Flight.launch]
  split
  · exact start_allBeside call ids m
  · exact start_allInTurn call ids false m

/-! ## The whole fan-out -/

theorem carryOut_fanOut (call : ResourceId → Call Unit) (ids : List ResourceId) (m : Memory) :
    (∃ os, (Service.carryOutIn (fanOut call ids) m).1 = .ok os ∧ os.map ItemOutcome.id = ids) ∧
      (Service.carryOutIn (fanOut call ids) m).2.log
        = m.log ++ ids.map fun id => (call id).record := by
  have hfanned := launch_fanOut call ids m
  refine ⟨?_, (log_carryOut hfanned.within).trans hfanned.log⟩
  obtain ⟨waits, r, m', hcarry, hend⟩ := Flight.carryOut_along Contract.kept_anything
    (fanOut call ids).within_anything (m := m) trivial
  simp only [Service.carryOutIn]
  rw [hcarry]
  rcases hend with ⟨-, hout⟩ | ⟨hfalse, -⟩
  · exact outcome_fanOut hout
  · exact hfalse.elim

end Screen

end AdminConsole
