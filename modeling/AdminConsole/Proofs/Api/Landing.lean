/-
# `Proofs.Api.Landing` — every flight comes to its end

A flight that has not landed waits for a call that is held back, and that call is
among those that can be released; so a release is always possible until the
flight lands (`Aloft`).  There is one exception, a flight that is blocked by
another one in front of it, and then that one waits.

Each release uses up patience and no move gives any back, so the releases that a
plan is allowed are enough.  What is carried out is therefore never stranded, and
whatever its moves preserve holds when it lands (`carryOut_ends`).
-/
import AdminConsole.Api.Flight
import AdminConsole.Proofs.Api.Memory

namespace AdminConsole.Flight

variable {α β : Type}

theorem eq_landed {f : Flight α} {r : Except ApiError α} (h : f.outcome? = some r) :
    f = .landed r := by
  cases f with
  | landed r' => cases h; rfl
  | waiting ticket c => cases h
  | attempt f => cases h
  | both secondFirst f g => cases h
  | beside f fs => cases h
  | inTurn f fs => cases h
  | andThen f k => cases h

theorem failure?_eq_some {f : Flight α} {e : ApiError} (h : f.failure? = some e) :
    f = .landed (.error e) := by
  simp only [failure?] at h
  split at h
  next e' ho =>
      cases h
      exact eq_landed ho
  next => cases h

/-- Some call of a flight is among those held back. -/
def WaitsOn (held : List Nat) : {α : Type} → Flight α → Prop
  | _, .landed _ => False
  | _, .waiting ticket _ => ticket ∈ held
  | _, .attempt f => WaitsOn held f
  | _, .both _ f g => WaitsOn held f ∨ WaitsOn held g
  | _, .beside f fs => WaitsOn held f ∨ WaitsOn held fs
  | _, .inTurn f fs => WaitsOn held f ∨ WaitsOn held fs
  | _, .andThen f _ => WaitsOn held f

/-- A flight that goes on once enough calls are released: it waits on one, unless it has landed. -/
def Aloft (held : List Nat) (f : Flight α) : Prop := f.outcome? = none → f.WaitsOn held

theorem WaitsOn.mono {held held' : List Nat} (h : held ⊆ held') {f : Flight α}
    (hf : f.WaitsOn held) : f.WaitsOn held' := by
  induction f with
  | landed r => exact hf
  | waiting ticket c => exact h hf
  | attempt f ih => exact ih hf
  | both secondFirst f g ihf ihg => exact hf.imp ihf ihg
  | beside f fs ihf ihfs => exact hf.imp ihf ihfs
  | inTurn f fs ihf ihfs => exact hf.imp ihf ihfs
  | andThen f k ih => exact ih hf

theorem not_waitsOn_nil (f : Flight α) : ¬f.WaitsOn [] := by
  induction f with
  | landed r => exact id
  | waiting ticket c => exact List.not_mem_nil
  | attempt f ih => exact ih
  | both secondFirst f g ihf ihg => exact fun h => h.elim ihf ihg
  | beside f fs ihf ihfs => exact fun h => h.elim ihf ihfs
  | inTurn f fs ihf ihfs => exact fun h => h.elim ihf ihfs
  | andThen f k ih => exact ih

theorem Aloft.mono {held held' : List Nat} (h : held ⊆ held') {f : Flight α}
    (hf : f.Aloft held) : f.Aloft held' :=
  fun ho => (hf ho).mono h

/-! ## Flights put together -/

section Together

variable {held : List Nat} {f : Flight α} {g : Flight β} {fs : Flight (List α)}

theorem aloft_landed (r : Except ApiError α) : (landed r).Aloft held := fun h => by cases h

theorem Aloft.attempted (h : f.Aloft held) : f.attempted.Aloft held := by
  simp only [Flight.attempted]
  split
  · exact aloft_landed _
  next ho => exact fun _ => h ho

theorem Aloft.pair (hf : f.Aloft held) (hg : g.Aloft held) (secondFirst : Bool) :
    (pair secondFirst f g).Aloft held := by
  simp only [Flight.pair]
  cases hfo : f.outcome? with
  | none =>
      cases g.outcome? with
      | none => exact fun _ => .inl (hf hfo)
      | some s =>
          cases s with
          | error e => exact aloft_landed _
          | ok b => exact fun _ => .inl (hf hfo)
  | some r =>
      cases r with
      | error e => exact aloft_landed _
      | ok a =>
          cases hgo : g.outcome? with
          | none => exact fun _ => .inr (hg hgo)
          | some s => cases s <;> exact aloft_landed _

theorem Aloft.prepend (hf : f.Aloft held) (hfs : fs.Aloft held) :
    (prepend f fs).Aloft held := by
  simp only [Flight.prepend]
  cases hfo : f.outcome? with
  | none =>
      cases fs.outcome? with
      | none => exact fun _ => .inl (hf hfo)
      | some s =>
          cases s with
          | error e => exact aloft_landed _
          | ok as => exact fun _ => .inl (hf hfo)
  | some r =>
      cases r with
      | error e => exact aloft_landed _
      | ok a =>
          cases hfso : fs.outcome? with
          | none => exact fun _ => .inr (hfs hfso)
          | some s => cases s <;> exact aloft_landed _

theorem blocks_eq_false {a : α} (h : f.outcome? = some (.ok a)) : f.blocks = false := by
  simp only [blocks]
  rw [h]

theorem Aloft.queue (hf : f.Aloft held) (hfail : f.failure? = none)
    (hfs : f.blocks = false → fs.Aloft held) : (queue false f fs).Aloft held := by
  simp only [Flight.queue]
  cases hfo : f.outcome? with
  | none => exact fun _ => .inl (hf hfo)
  | some r =>
      cases r with
      | error e =>
          simp only [failure?] at hfail
          simp [hfo] at hfail
      | ok a =>
          cases hfso : fs.outcome? with
          | none => exact fun _ => .inr (hfs (blocks_eq_false hfo) hfso)
          | some s => cases s <;> exact aloft_landed _

end Together

/-! ## Moves -/

/-- What a move does to the calls held back: none is forgotten, no patience is gained, and the flight
is aloft unless it is blocked. -/
structure Lifted (blocked : Bool) (m : Memory) (moved : Flight α × Memory) : Prop where
  held : m.held ⊆ moved.2.held
  patience : moved.2.patience ≤ m.patience
  aloft : blocked = false → moved.1.Aloft moved.2.held

section Moves

variable {m m₁ m₂ : Memory} {b : Bool} {f : Flight α} {g : Flight β} {fs : Flight (List α)}

theorem Lifted.landed {r : Except ApiError α} (h : Memory.SameTraffic m m₁) :
    Lifted b m (Flight.landed r, m₁) where
  held := by rw [h.held]; exact fun _ => id
  patience := Nat.le_of_eq (Memory.patience_congr h)
  aloft _ := aloft_landed r

theorem startCall_lifted (c : Call α) (m : Memory) : Lifted b m (startCall c m) := by
  unfold startCall
  simp only
  split
  next h =>
      refine ⟨?_, ?_, fun _ _ => ?_⟩
      · exact List.subset_append_left _ _
      · exact Nat.le_of_eq (Memory.patience_hold h)
      · exact List.mem_append_right _ List.mem_cons_self
  next =>
      have hsame := Memory.sameTraffic_answer (m.note c.record) c
      refine ⟨?_, ?_, fun _ => aloft_landed _⟩
      · show m.held ⊆ ((m.note c.record).answer c).2.held
        rw [hsame.held]
        exact fun _ => id
      · show ((m.note c.record).answer c).2.patience ≤ m.patience
        exact Nat.le_of_eq ((Memory.patience_congr hsame).trans (Memory.patience_note m c.record))

theorem Lifted.fail {γ : Type} {e : ApiError} (h : Lifted false m (f, m₁)) :
    Lifted b m ((Flight.landed (.error e) : Flight γ), m₁) where
  held := h.held
  patience := h.patience
  aloft _ := aloft_landed _

theorem Lifted.pair (hf : Lifted false m (f, m₁)) (hg : Lifted false m₁ (g, m₂))
    (secondFirst : Bool) :
    Lifted b m (Flight.pair secondFirst f g, m₂) where
  held := fun _ ht => hg.held (hf.held ht)
  patience := Nat.le_trans hg.patience hf.patience
  aloft _ := ((hf.aloft rfl).mono hg.held).pair (hg.aloft rfl) secondFirst

theorem Lifted.pair_swapped (hg : Lifted false m (g, m₁)) (hf : Lifted false m₁ (f, m₂))
    (secondFirst : Bool) : Lifted b m (Flight.pair secondFirst f g, m₂) where
  held := fun _ ht => hf.held (hg.held ht)
  patience := Nat.le_trans hf.patience hg.patience
  aloft _ := (hf.aloft rfl).pair ((hg.aloft rfl).mono hf.held) secondFirst

theorem Lifted.prepend (hf : Lifted false m (f, m₁)) (hfs : Lifted false m₁ (fs, m₂)) :
    Lifted b m (Flight.prepend f fs, m₂) where
  held := fun _ ht => hfs.held (hf.held ht)
  patience := Nat.le_trans hfs.patience hf.patience
  aloft _ := ((hf.aloft rfl).mono hfs.held).prepend (hfs.aloft rfl)

theorem Lifted.queue (hf : Lifted false m (f, m₁)) (hfail : b = false → f.failure? = none)
    (hfs : Lifted (b || f.blocks) m₁ (fs, m₂)) : Lifted b m (Flight.queue b f fs, m₂) where
  held := fun _ ht => hfs.held (hf.held ht)
  patience := Nat.le_trans hfs.patience hf.patience
  aloft := by
    intro hb
    subst hb
    refine ((hf.aloft rfl).mono hfs.held).queue (hfail rfl) fun hblocks => hfs.aloft ?_
    rw [hblocks]
    rfl

end Moves

theorem start_lifted (p : Plan α) : ∀ (b : Bool) (m : Memory), Lifted b m (start b p m) := by
  induction p with
  | done a => exact fun b m => Lifted.landed (Memory.SameTraffic.refl m)
  | fail e => exact fun b m => Lifted.landed (Memory.SameTraffic.refl m)
  | call c => exact fun b m => startCall_lifted c m
  | attempt p ih =>
      intro b m
      have h := ih false m
      simp only [start]
      exact ⟨h.held, h.patience, fun _ => (h.aloft rfl).attempted⟩
  | both p q ihp ihq =>
      intro b m
      have hp := ihp false m
      simp only [start]
      split
      · exact hp.fail
      · exact hp.pair (ihq false _) true
  | beside p ps ihp ihps =>
      intro b m
      have hp := ihp false m
      simp only [start]
      split
      · exact hp.fail
      · exact hp.prepend (ihps false _)
  | inTurn p ps ihp ihps =>
      intro b m
      have hp := ihp false m
      simp only [start]
      split
      · exact hp.fail
      next hne =>
          refine hp.queue ?_ (ihps _ _)
          intro hb
          cases hf : (start false p m).1.failure? with
          | none => rfl
          | some e => exact absurd hf (hne e hb)
  | andThen p k ihp ihk =>
      intro b m
      have hp := ihp false m
      simp only [start]
      split
      next a ho =>
          have hk := ihk a false (start false p m).2
          exact ⟨fun _ ht => hk.held (hp.held ht), Nat.le_trans hk.patience hp.patience,
            fun _ => hk.aloft rfl⟩
      · exact hp.fail
      next ho => exact ⟨hp.held, hp.patience, fun _ _ => hp.aloft rfl ho⟩

theorem advance_lifted (f : Flight α) :
    ∀ (b : Bool) (m : Memory), Lifted b m (advance b f m) := by
  induction f with
  | landed r => exact fun b m => Lifted.landed (Memory.SameTraffic.refl m)
  | waiting ticket c =>
      intro b m
      simp only [advance]
      split
      next h =>
          refine ⟨fun _ => id, Nat.le_refl _, fun _ _ => ?_⟩
          exact List.contains_iff_mem.mp h
      next => exact Lifted.landed (Memory.sameTraffic_answer m c)
  | attempt f ih =>
      intro b m
      have h := ih false m
      simp only [advance]
      exact ⟨h.held, h.patience, fun _ => (h.aloft rfl).attempted⟩
  | both secondFirst f g ihf ihg =>
      intro b m
      cases secondFirst with
      | false =>
          have hf := ihf false m
          simp only [advance]
          split
          · exact hf.fail
          · exact hf.pair (ihg false _) true
      | true =>
          have hg := ihg false m
          simp only [advance]
          split
          · exact hg.fail
          · exact hg.pair_swapped (ihf false _) false
  | beside f fs ihf ihfs =>
      intro b m
      have hf := ihf false m
      simp only [advance]
      split
      · exact hf.fail
      · exact hf.prepend (ihfs false _)
  | inTurn f fs ihf ihfs =>
      intro b m
      have hf := ihf false m
      simp only [advance]
      split
      · exact hf.fail
      next hne =>
          refine hf.queue ?_ (ihfs _ _)
          intro hb
          cases hfail : (advance false f m).1.failure? with
          | none => rfl
          | some e => exact absurd hfail (hne e hb)
  | andThen f k ihf =>
      intro b m
      have hf := ihf false m
      simp only [advance]
      split
      next a ho =>
          have hk := start_lifted (k a) false (advance false f m).2
          exact ⟨fun _ ht => hk.held (hf.held ht), Nat.le_trans hk.patience hf.patience,
            fun _ => hk.aloft rfl⟩
      · exact hf.fail
      next ho => exact ⟨hf.held, hf.patience, fun _ _ => hf.aloft rfl ho⟩

/-! ## Landing -/

section Landing

variable {I : Flight α → Memory → Prop}

/-- A flight lands within its patience, and what polls preserve holds then. -/
theorem bringDown_ends
    (step : ∀ {f : Flight α} {m m' : Memory}, f.outcome? = none → I f m → m.release? = some m' →
      I (f.poll m').1 (f.poll m').2)
    {f : Flight α} {m : Memory} (h : I f m) (aloft : f.Aloft m.held) {fuel : Nat}
    (enough : m.patience < fuel) :
    ∃ waits r m', bringDown fuel f m = (waits, r, m') ∧ I (.landed r) m' := by
  induction fuel generalizing f m with
  | zero => exact absurd enough (Nat.not_lt_zero _)
  | succ fuel ih =>
      simp only [bringDown]
      cases ho : f.outcome? with
      | some r => exact ⟨0, r, m, rfl, eq_landed ho ▸ h⟩
      | none =>
          -- what it waits on is held, so something can be released
          cases hrelease : m.release? with
          | none =>
              have hwaits := aloft ho
              rw [Memory.release?_eq_none hrelease] at hwaits
              exact absurd hwaits (not_waitsOn_nil f)
          | some m' =>
              have hmoved := advance_lifted f false m'
              have hpatience := Memory.patience_release? hrelease
              have henough : (f.poll m').2.patience < fuel :=
                Nat.lt_of_le_of_lt hmoved.patience (by omega)
              obtain ⟨waits, r, m'', hrest, hI⟩ := ih (step ho h hrelease) (hmoved.aloft rfl) henough
              refine ⟨waits + 1, r, m'', ?_, hI⟩
              simp only [hrest]

/-- A plan that is carried out lands, and what its moves preserve holds then. -/
theorem carryOut_ends
    (step : ∀ {f : Flight α} {m m' : Memory}, f.outcome? = none → I f m → m.release? = some m' →
      I (f.poll m').1 (f.poll m').2)
    {p : Plan α} {m : Memory} (h : I (launch p m).1 (launch p m).2) :
    ∃ waits r m', carryOut p m = (waits, r, m') ∧ I (.landed r) m' :=
  bringDown_ends step h ((start_lifted p false m).aloft rfl) (Nat.lt_succ_self _)

end Landing

end AdminConsole.Flight
