/-
# `Proofs.Request.Loading` — the loading flag tells the truth

The flag is raised in one place and lowered in three, each of which compares
generations in its own way.  What ties them together is that no two calls of a
run have a generation in common, and none is ahead of the state; so a call that
goes away takes the flag with it exactly when its generation is the newest one
(`Honest.lowered`), and leaves it alone otherwise (`Honest.without`).

The invariant is `Honest`.  Beside it, the generation only counts the starts and
cancellations (`generation_after`), and a step that does not notify has left the
whole state as it was (`state_of_not_notified`).
-/
import AdminConsole.Proofs.Request.LastWins
import Mathlib.Data.List.Pairwise

namespace AdminConsole.Request

variable {κ ρ ε : Type}

/-- Calls have neither their names nor their generations in common. -/
def Call.Apart (c d : Call κ ρ ε) : Prop := c.id ≠ d.id ∧ c.generation ≠ d.generation

instance : Std.Symm (Call.Apart (κ := κ) (ρ := ρ) (ε := ε)) where
  symm _ _ h := ⟨h.1.symm, h.2.symm⟩

/-- The calls of a run are told apart, and it is loading exactly while the newest one is among
them. -/
structure Honest (run : Run κ ρ ε) : Prop where
  apart : run.calls.Pairwise Call.Apart
  bounded : ∀ c ∈ run.calls, c.generation ≤ run.state.generation
  loading : run.state.isLoading = true ↔ ∃ c ∈ run.calls, c.generation = run.state.generation

variable [DecidableEq κ] {run : Run κ ρ ε} {c : Call κ ρ ε} {state : Request ρ ε}

/-! ## Calls that go away -/

theorem Run.mem_of_call? {id : κ} (h : run.call? id = some c) : c ∈ run.calls :=
  List.mem_of_find?_eq_some h

theorem Honest.mem_others (h : Honest run) (hc : c ∈ run.calls) {d : Call κ ρ ε} :
    d ∈ run.others c.id ↔ d ∈ run.calls ∧ d.generation ≠ c.generation := by
  simp only [Run.others, List.mem_filter, bne_iff_ne, ne_eq]
  constructor
  · rintro ⟨hd, hid⟩
    have hne : d ≠ c := fun he => hid (congrArg Call.id he)
    exact ⟨hd, (h.apart.forall hd hc hne).2⟩
  · rintro ⟨hd, hgen⟩
    have hne : d ≠ c := fun he => hgen (congrArg Call.generation he)
    exact ⟨hd, (h.apart.forall hd hc hne).1⟩

theorem Honest.without (h : Honest run) (hc : c ∈ run.calls)
    (stale : run.state.isNewest c.generation = false) :
    Honest { run with calls := run.others c.id } where
  apart := h.apart.filter _
  bounded d hd := h.bounded d ((h.mem_others hc).mp hd).1
  loading := by
    have hne : c.generation ≠ run.state.generation := by
      intro he
      simp [isNewest, he] at stale
    rw [h.loading]
    constructor
    · rintro ⟨d, hd, hnew⟩
      exact ⟨d, (h.mem_others hc).mpr ⟨hd, fun he => hne (he.symm.trans hnew)⟩, hnew⟩
    · rintro ⟨d, hd, hnew⟩
      exact ⟨d, ((h.mem_others hc).mp hd).1, hnew⟩

theorem Honest.lowered (h : Honest run) (hc : c ∈ run.calls)
    (newest : run.state.isNewest c.generation = true)
    (generation : state.generation = run.state.generation) (isLoading : state.isLoading = false) :
    Honest ⟨state, run.others c.id⟩ where
  apart := h.apart.filter _
  bounded d hd := by
    show d.generation ≤ state.generation
    rw [generation]
    exact h.bounded d ((h.mem_others hc).mp hd).1
  loading := by
    have hnew : run.state.generation = c.generation := beq_iff_eq.mp newest
    constructor
    · intro hloading
      rw [isLoading] at hloading
      cases hloading
    · rintro ⟨d, hd, hd'⟩
      exact absurd ((hd'.trans generation).trans hnew) ((h.mem_others hc).mp hd).2

/-! ## The other moves -/

omit [DecidableEq κ] in
theorem Honest.unmoved (h : Honest run) (generation : state.generation = run.state.generation)
    (isLoading : state.isLoading = run.state.isLoading) {f : Call κ ρ ε → Call κ ρ ε}
    (hid : ∀ c, (f c).id = c.id) (hgen : ∀ c, (f c).generation = c.generation) :
    Honest ⟨state, run.calls.map f⟩ where
  apart := by
    refine List.pairwise_map.mpr (h.apart.imp ?_)
    rintro c d ⟨hcd, hcd'⟩
    exact ⟨by rwa [hid, hid], by rwa [hgen, hgen]⟩
  bounded := by
    intro d hd
    obtain ⟨c, hc, rfl⟩ := List.mem_map.mp hd
    show (f c).generation ≤ state.generation
    rw [hgen, generation]
    exact h.bounded c hc
  loading := by
    show state.isLoading = true ↔ ∃ d ∈ run.calls.map f, d.generation = state.generation
    rw [isLoading, h.loading, generation]
    simp [hgen]

omit [DecidableEq κ] in
theorem Honest.same (h : Honest run) (generation : state.generation = run.state.generation)
    (isLoading : state.isLoading = run.state.isLoading) : Honest { run with state } := by
  have := h.unmoved generation isLoading (f := id) (fun _ => rfl) fun _ => rfl
  rwa [List.map_id] at this

theorem Honest.start (h : Honest run) (id : κ) : Honest (run.start id) where
  apart := by
    refine List.pairwise_append.mpr ⟨h.apart.filter _, List.pairwise_singleton _ _, ?_⟩
    intro c hc d hd
    obtain ⟨hcalls, hid⟩ := List.mem_filter.mp hc
    have hle := h.bounded c hcalls
    rw [List.mem_singleton.mp hd]
    refine ⟨bne_iff_ne.mp hid, ?_⟩
    show c.generation ≠ run.state.generation + 1
    omega
  bounded := by
    intro c hc
    show c.generation ≤ run.state.generation + 1
    rcases List.mem_append.mp hc with hc | hc
    · have := h.bounded c (List.mem_filter.mp hc).1
      omega
    · rw [List.mem_singleton.mp hc]
      exact Nat.le_refl _
  loading := by
    refine ⟨fun _ => ⟨⟨id, run.state.generation + 1, none⟩, ?_, rfl⟩, fun _ => rfl⟩
    exact List.mem_append_right _ (List.mem_singleton.mpr rfl)

omit [DecidableEq κ] in
theorem Honest.cancel (h : Honest run) : Honest { run with state := run.state.cancel } where
  apart := h.apart
  bounded c hc := Nat.le_succ_of_le (h.bounded c hc)
  loading := by
    refine ⟨fun hloading => (by cases hloading), ?_⟩
    rintro ⟨c, hc, hnew⟩
    have hle := h.bounded c hc
    have hnew' : c.generation = run.state.generation + 1 := hnew
    omega

omit [DecidableEq κ] in
theorem Honest.perm (h : Honest run) {calls : List (Call κ ρ ε)} (hperm : run.calls.Perm calls) :
    Honest { run with calls } where
  apart := hperm.pairwise h.apart fun hcd => ⟨hcd.1.symm, hcd.2.symm⟩
  bounded c hc := h.bounded c (hperm.mem_iff.mpr hc)
  loading := by
    rw [h.loading]
    exact exists_congr fun c => and_congr_left fun _ => hperm.mem_iff

/-- A call may take its place behind all others. -/
theorem Honest.requeue (h : Honest run) (hc : c ∈ run.calls) :
    Honest { run with calls := run.others c.id ++ [c] } := by
  have hmem : ∀ d, d ∈ run.others c.id ++ [c] ↔ d ∈ run.calls := by
    intro d
    rw [List.mem_append, List.mem_singleton, h.mem_others hc]
    constructor
    · rintro (⟨hd, -⟩ | rfl)
      · exact hd
      · exact hc
    · intro hd
      by_cases hdc : d = c
      · exact .inr hdc
      · exact .inl ⟨hd, (h.apart.forall hd hc hdc).2⟩
  constructor
  · refine List.pairwise_append.mpr ⟨h.apart.filter _, List.pairwise_singleton _ _, ?_⟩
    intro d hd e he
    obtain ⟨hcalls, hid⟩ := List.mem_filter.mp hd
    rw [List.mem_singleton.mp he]
    exact ⟨bne_iff_ne.mp hid, ((h.mem_others hc).mp hd).2⟩
  · exact fun d hd => h.bounded d ((hmem d).mp hd)
  · rw [h.loading]
    exact exists_congr fun d => and_congr_left fun _ => (hmem d).symm

/-! ## Steps and runs -/

theorem Honest.poll (h : Honest run) (hc : c ∈ run.calls) : Honest (run.pollCall c).1 := by
  simp only [Run.pollCall, settle]
  cases hnew : run.state.isNewest c.generation with
  | false => exact h.without hc hnew
  | true =>
      cases c.reply with
      | none => exact h
      | some reply =>
          refine h.lowered hc hnew (Run.generation_accept run.state reply) ?_
          cases reply <;> rfl

theorem Honest.drop (h : Honest run) (hc : c ∈ run.calls) :
    Honest ⟨(run.state.abandon c.generation).state, run.others c.id⟩ := by
  simp only [abandon]
  cases hnew : run.state.isNewest c.generation with
  | false => exact h.without hc hnew
  | true =>
      -- a call that is alive and the newest one keeps the flag raised
      have hloading : run.state.isLoading = true :=
        h.loading.mpr ⟨c, hc, (beq_iff_eq.mp hnew).symm⟩
      rw [hloading]
      exact h.lowered hc hnew rfl rfl

theorem Honest.step (h : Honest run) (e : Event κ ρ ε) : Honest (run.step e).1 := by
  cases e with
  | start id => exact h.start id
  | deliver id reply =>
      refine h.unmoved rfl rfl (fun c => ?_) fun c => ?_
      · simp only [Run.deliverTo]
        split <;> rfl
      · simp only [Run.deliverTo]
        split <;> rfl
  | poll id =>
      simp only [Run.step]
      cases hc : run.call? id with
      | none => exact h
      | some c => exact h.poll (Run.mem_of_call? hc)
  | drop id =>
      simp only [Run.step]
      cases hc : run.call? id with
      | none => exact h
      | some c =>
          have hdropped := h.drop (Run.mem_of_call? hc)
          rwa [Run.id_of_call? hc] at hdropped
  | setValue value => exact h.same rfl rfl
  | updateValue f => exact h.same rfl rfl
  | dismiss => exact h.same rfl rfl
  | cancel => exact h.cancel

omit [DecidableEq κ] in
theorem Honest.initial (default : ρ) : Honest (Run.initial default : Run κ ρ ε) where
  apart := List.Pairwise.nil
  bounded _ hc := absurd hc List.not_mem_nil
  loading := by
    refine ⟨fun hloading => (by cases hloading), ?_⟩
    rintro ⟨c, hc, -⟩
    exact absurd hc List.not_mem_nil

theorem Honest.after (h : Honest run) (events : List (Event κ ρ ε)) : Honest (run.after events) := by
  induction events generalizing run with
  | nil => exact h
  | cons e events ih => exact ih (h.step e)

theorem generation_after (run : Run κ ρ ε) (events : List (Event κ ρ ε)) :
    (run.after events).state.generation
      = run.state.generation + events.countP Event.overtakes := by
  induction events generalizing run with
  | nil => rfl
  | cons e events ih =>
      have hnext : (run.after (e :: events)).state.generation
          = (run.step e).1.state.generation + events.countP Event.overtakes := ih (run.step e).1
      rw [hnext, Run.generation_step, List.countP_cons]
      cases e.overtakes with
      | false => rfl
      | true => simp only [if_true]; omega

theorem state_of_not_notified (e : Event κ ρ ε) (h : (run.step e).2.notified = false) :
    (run.step e).1.state = run.state := by
  cases e with
  | start id => cases h
  | deliver id reply => rfl
  | poll id =>
      simp only [Run.step] at h ⊢
      cases hc : run.call? id with
      | none => rfl
      | some c =>
          rw [hc] at h
          simp only [Run.pollCall, settle] at h ⊢
          cases hnew : run.state.isNewest c.generation with
          | false => rfl
          | true =>
              simp only [hnew] at h
              cases hr : c.reply with
              | none => rfl
              | some reply => simp [hr] at h
  | drop id =>
      simp only [Run.step] at h ⊢
      cases hc : run.call? id with
      | none => rfl
      | some c =>
          rw [hc] at h
          simp only [abandon] at h ⊢
          split at h
          · cases h
          next hkept => rw [if_neg hkept]
  | setValue value => cases h
  | updateValue f => cases h
  | dismiss =>
      have hnone : run.state.error.isSome = false := h
      show { run.state with error := none } = run.state
      rw [← Option.isNone_iff_eq_none.mp (Option.isSome_eq_false_iff.mp hnone)]
  | cancel => cases h

/-! ## Calls and their history -/

section Histories

variable {past : List (Event κ ρ ε)} {id : κ}

theorem Honest.call?_of_mem (h : Honest run) (hc : c ∈ run.calls) : run.call? c.id = some c := by
  cases hd : run.call? c.id with
  | none =>
      have := List.find?_eq_none.mp hd c hc
      simp at this
  | some d =>
      by_cases hne : d = c
      · rw [hne]
      · exact absurd (Run.id_of_call? hd) (h.apart.forall (Run.mem_of_call? hd) hc hne).1

theorem isSome_call? (h : Follows id past run) :
    (run.call? id).isSome = (liveSince? id past).isSome := by
  simp only [Follows] at h
  cases hlive : liveSince? id past with
  | none =>
      rw [hlive] at h
      have hnone : run.call? id = none := h
      rw [hnone]
      rfl
  | some since =>
      rw [hlive] at h
      obtain ⟨c, hc⟩ := h
      rw [hc.here]
      rfl

theorem Honest.mem_calls_iff (h : Honest run) (hid : Follows id past run) :
    (∃ c ∈ run.calls, c.id = id) ↔ (liveSince? id past).isSome = true := by
  rw [← isSome_call? hid]
  constructor
  · rintro ⟨c, hc, rfl⟩
    rw [h.call?_of_mem hc]
    rfl
  · intro hsome
    obtain ⟨c, hc⟩ := Option.isSome_iff_exists.mp hsome
    exact ⟨c, Run.mem_of_call? hc, Run.id_of_call? hc⟩

/-- A run is loading while a call is alive that nothing has overtaken. -/
theorem Honest.loading_iff_alive (h : Honest run) (calls : ∀ id, Follows id past run) :
    run.state.isLoading = true ↔
      ∃ id since, liveSince? id past = some since ∧ isOvertaken since = false := by
  rw [h.loading]
  constructor
  · rintro ⟨c, hc, hgen⟩
    have hcall := h.call?_of_mem hc
    have hid := calls c.id
    simp only [Follows] at hid
    cases hlive : liveSince? c.id past with
    | none =>
        simp only [hlive] at hid
        rw [hcall] at hid
        cases hid
    | some since =>
        simp only [hlive] at hid
        obtain ⟨d, hd⟩ := hid
        have hdc : d = c := Option.some.inj (hd.here.symm.trans hcall)
        have hnew := hd.newest
        rw [hdc, isNewest, hgen, beq_self_eq_true] at hnew
        exact ⟨c.id, since, hlive, by simpa using hnew.symm⟩
  · rintro ⟨id, since, hlive, hover⟩
    have hid := calls id
    simp only [Follows, hlive] at hid
    obtain ⟨c, hc⟩ := hid
    have hnew := hc.newest
    rw [hover] at hnew
    exact ⟨c, Run.mem_of_call? hc.here, (beq_iff_eq.mp hnew).symm⟩

end Histories

/-- **The loading flag tells the truth.**  At every moment of a run the generation is the number of
starts and cancellations, the calls that are alive have generations of their own up to it, the run is
loading exactly while the call of the newest generation is alive, and no step changes the state without
notifying. -/
theorem loading_tells_truth (default : ρ) (past : List (Event κ ρ ε)) :
    let run := (Run.initial default).after past
    run.state.generation = past.countP Event.overtakes ∧
    (∀ id, (∃ c ∈ run.calls, c.id = id) ↔ (liveSince? id past).isSome = true) ∧
    (run.calls.map Call.generation).Nodup ∧
    (∀ c ∈ run.calls, c.generation ≤ run.state.generation) ∧
    (run.state.isLoading = true ↔ ∃ c ∈ run.calls, c.generation = run.state.generation) ∧
    ∀ e, (run.step e).1.state ≠ run.state → (run.step e).2.notified = true := by
  intro run
  have h : Honest run := (Honest.initial default).after past
  refine ⟨?_, ?_, ?_, h.bounded, h.loading, ?_⟩
  · rw [generation_after]
    exact Nat.zero_add _
  · exact fun id => h.mem_calls_iff ((tracks default past).calls id)
  · exact List.pairwise_map.mpr (h.apart.imp fun hcd => hcd.2)
  · intro e hchanged
    cases hnotified : (run.step e).2.notified with
    | true => rfl
    | false => exact absurd (state_of_not_notified e hnotified) hchanged

/-- A call that was overtaken is dropped, then the newest one. -/
theorem loading_tells_truth_two :
    let past : List (Event Nat Nat Nat) := [.start 1, .start 2, .drop 1]
    let run := (Run.initial 0).after past
    run.state.generation = 2 ∧ run.state.isLoading = true ∧
      (run.step (.drop 2)).2.notified = true ∧ (run.step (.drop 2)).1.state.isLoading = false := by
  intro past run
  obtain ⟨hcount, -, -, -, hloading, hnotified⟩ := loading_tells_truth 0 past
  refine ⟨hcount, hloading.mpr ⟨⟨2, 2, none⟩, List.mem_singleton.mpr rfl, rfl⟩, ?_, rfl⟩
  exact hnotified (.drop 2) fun hsame => by
    have := congrArg Request.isLoading hsame
    exact absurd this (by decide)

end AdminConsole.Request
