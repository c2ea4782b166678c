/-
# `Proofs.Api.Schedule` — calls that are let go in any order

Carrying a plan out releases the calls held back one at a time, the one held
longest first.  Here any of them may be released before a poll, in any order and
several at once (`EndsIn`): the ways a flight may end then are those of every
order in which its calls can complete.

The order of carrying out is one of them (`endsIn_carryOut`), and a contract that
does not look at the calls held back is kept in all of them (`Along.endsIn`).
-/
import AdminConsole.Api.Flight
import AdminConsole.Proofs.Api.Contract

namespace AdminConsole.Flight

variable {α : Type}

/-- How a flight may end when calls are let go in any order: before each poll, any of those that are
held back may have been released. -/
inductive EndsIn : Flight α → Memory → Except ApiError α → Prop
  | landed {r : Except ApiError α} {m : Memory} : EndsIn (.landed r) m r
  | polled {f : Flight α} {m : Memory} {r : Except ApiError α} {held : List Nat} :
      held ⊆ m.held → EndsIn (f.poll { m with held }).1 (f.poll { m with held }).2 r →
      EndsIn f m r

theorem endsIn_carryOut (p : Plan α) (m : Memory) :
    (launch p m).1.EndsIn (launch p m).2 (Service.carryOutIn p m).1 := by
  -- what is left of the flight ends in no other way than the whole
  obtain ⟨waits, r, m', hcarry, hend⟩ :=
    carryOut_ends (I := fun f m' => ∀ s, f.EndsIn m' s → (launch p m).1.EndsIn (launch p m).2 s)
      (p := p) (m := m)
      (by
        intro f m₁ m₂ _ h hrelease s hs
        obtain ⟨ticket, held, hheld, rfl⟩ := Memory.release?_eq_some hrelease
        refine h s (.polled ?_ hs)
        rw [hheld]
        exact List.subset_cons_self ticket held)
      (fun _ hs => hs)
  simp only [Service.carryOutIn]
  rw [hcarry]
  exact hend r .landed

/-- Under a contract that does not look at the calls held back, a flight ends as it should whatever
they are let go in, or with a failure that has broken the contract. -/
theorem Along.endsIn {K : Contract} (hK : K.Kept)
    (hheld : ∀ {m : Memory} {held : List Nat}, K.holds m → K.holds { m with held })
    {P : Except ApiError α → Prop} {f : Flight α} {m : Memory} {r : Except ApiError α}
    (h : Along K P f m) (hr : f.EndsIn m r) : P r ∨ (K.breaks ∧ ∃ e, r = .error e) := by
  induction hr with
  | landed => exact h.ended.imp And.right id
  | polled _ _ ih => exact ih (h.goOn hK hheld)

theorem endsIn_along {K : Contract} (hK : K.Kept)
    (hheld : ∀ {m : Memory} {held : List Nat}, K.holds m → K.holds { m with held })
    {p : Plan α} (hp : p.Within K) {m : Memory} (hm : K.holds m) {r : Except ApiError α}
    (hr : (launch p m).1.EndsIn (launch p m).2 r) :
    p.Outcome K.replies r ∨ (K.breaks ∧ ∃ e, r = .error e) :=
  Along.endsIn hK hheld ⟨within_start hK p false m hp, course_start hK p false m hp hm⟩ hr

end AdminConsole.Flight
