/-
# `Proofs.Api.Contract` — what holds of a plan however its calls are held back

A plan has *outcomes*: the ways it may end, given the replies that its calls may
get.  They say nothing about the order in which calls go on, and a flight has the
same ones as the plan of which it is left.

A *contract* says what is kept while a plan is carried out: which calls it starts
and waits for, what holds of the service in between, and which replies come of
that.  If every move of the service keeps the contract, then a plan that starts
only such calls ends with one of its outcomes, whatever is held back and released
in whatever order (`carryOut_along`).

A contract may allow that a failing call breaks it.  Then the plan must make no
attempts, so that such a failure is its end.
-/
import AdminConsole.Proofs.Api.Landing

namespace AdminConsole

/-! ## Outcomes -/

/-- Two outcomes are joined: both values, or a failure of either. -/
def Joined {α β γ : Type} (P : Except ApiError α → Prop) (Q : Except ApiError β → Prop)
    (join : α → β → γ) (r : Except ApiError γ) : Prop :=
  (∃ a b, P (.ok a) ∧ Q (.ok b) ∧ r = .ok (join a b)) ∨
    ∃ e, (P (.error e) ∨ Q (.error e)) ∧ r = .error e

/-- One outcome decides what follows: another one after a value, or the same failure. -/
def Bound {α β : Type} (P : Except ApiError α → Prop) (K : α → Except ApiError β → Prop)
    (r : Except ApiError β) : Prop :=
  (∃ a, P (.ok a) ∧ K a r) ∨ ∃ e, P (.error e) ∧ r = .error e

theorem Joined.mono {α β γ : Type} {P P' : Except ApiError α → Prop}
    {Q Q' : Except ApiError β → Prop} {join : α → β → γ} {r : Except ApiError γ}
    (hP : ∀ s, P s → P' s) (hQ : ∀ s, Q s → Q' s) (h : Joined P Q join r) :
    Joined P' Q' join r := by
  rcases h with ⟨a, b, ha, hb, rfl⟩ | ⟨e, he, rfl⟩
  · exact .inl ⟨a, b, hP _ ha, hQ _ hb, rfl⟩
  · exact .inr ⟨e, he.imp (hP _) (hQ _), rfl⟩

theorem Bound.mono {α β : Type} {P P' : Except ApiError α → Prop}
    {K : α → Except ApiError β → Prop} {r : Except ApiError β} (hP : ∀ s, P s → P' s)
    (h : Bound P K r) : Bound P' K r := by
  rcases h with ⟨a, ha, hr⟩ | ⟨e, he, rfl⟩
  · exact .inl ⟨a, hP _ ha, hr⟩
  · exact .inr ⟨e, hP _ he, rfl⟩

/-- The ways a plan may end, given the replies that its calls may get. -/
def Plan.Outcome (replies : {α : Type} → Call α → Except ApiError α → Prop) :
    {α : Type} → Plan α → Except ApiError α → Prop
  | _, .done a, r => r = .ok a
  | _, .fail e, r => r = .error e
  | _, .call c, r => replies c r
  | _, .attempt p, r => ∃ s, Outcome replies p s ∧ r = .ok s
  | _, .both p q, r => Joined (Outcome replies p) (Outcome replies q) Prod.mk r
  | _, .beside p ps, r => Joined (Outcome replies p) (Outcome replies ps) List.cons r
  | _, .inTurn p ps, r => Joined (Outcome replies p) (Outcome replies ps) List.cons r
  | _, .andThen p k, r => Bound (Outcome replies p) (fun a => Outcome replies (k a)) r

/-- The ways a flight may end, given the replies that its calls may get. -/
def Flight.Outcome (replies : {α : Type} → Call α → Except ApiError α → Prop) :
    {α : Type} → Flight α → Except ApiError α → Prop
  | _, .landed s, r => r = s
  | _, .waiting _ c, r => replies c r
  | _, .attempt f, r => ∃ s, Outcome replies f s ∧ r = .ok s
  | _, .both _ f g, r => Joined (Outcome replies f) (Outcome replies g) Prod.mk r
  | _, .beside f fs, r => Joined (Outcome replies f) (Outcome replies fs) List.cons r
  | _, .inTurn f fs, r => Joined (Outcome replies f) (Outcome replies fs) List.cons r
  | _, .andThen f k, r => Bound (Outcome replies f) (fun a => (k a).Outcome replies) r

/-- Any reply at all. -/
def anyReply {α : Type} (_ : Call α) (_ : Except ApiError α) : Prop := True

/-- A flight that can only fail. -/
def Flight.Fails {α : Type} (f : Flight α) : Prop := ∀ r, f.Outcome anyReply r → ∃ e, r = .error e

/-! ## Contracts -/

/-- What is kept while plans are carried out. -/
structure Contract where
  /-- The calls that are started. -/
  starts : {α : Type} → Call α → Prop
  /-- The calls that are answered. -/
  waits : {α : Type} → Call α → Prop
  /-- What holds of the service. -/
  holds : Memory → Prop
  /-- The replies that come of it. -/
  replies : {α : Type} → Call α → Except ApiError α → Prop
  /-- Whether a failing call may break the contract. -/
  breaks : Prop

/-- The service keeps a contract by each of its moves. -/
structure Contract.Kept (K : Contract) : Prop where
  waits : ∀ {α : Type} {c : Call α}, K.starts c → K.waits c
  note : ∀ {α : Type} {c : Call α} {m : Memory}, K.holds m → K.starts c → K.holds (m.note c.record)
  hold : ∀ {m : Memory} {method : String}, K.holds m → K.holds (m.hold method).2
  release : ∀ {m m' : Memory}, K.holds m → m.release? = some m' → K.holds m'
  answer : ∀ {α : Type} {c : Call α} {m : Memory}, K.holds m → K.waits c →
    (K.holds (m.answer c).2 ∧ K.replies c (m.answer c).1) ∨
      (K.breaks ∧ ∃ e, (m.answer c).1 = .error e)

/-- A plan that starts only calls of a contract. -/
def Plan.Within (K : Contract) : {α : Type} → Plan α → Prop
  | _, .done _ => True
  | _, .fail _ => True
  | _, .call c => K.starts c
  | _, .attempt p => ¬K.breaks ∧ Within K p
  | _, .both p q => Within K p ∧ Within K q
  | _, .beside p ps => Within K p ∧ Within K ps
  | _, .inTurn p ps => Within K p ∧ Within K ps
  | _, .andThen p k => Within K p ∧ ∀ a, Within K (k a)

/-- The contract that asks for nothing. -/
def Contract.anything : Contract := ⟨fun _ => True, fun _ => True, fun _ => True, anyReply, False⟩

theorem Contract.kept_anything : anything.Kept where
  waits _ := trivial
  note _ _ := trivial
  hold _ := trivial
  release _ _ := trivial
  answer _ _ := .inl ⟨trivial, trivial⟩

theorem Plan.within_anything {α : Type} (p : Plan α) : p.Within Contract.anything := by
  induction p with
  | done a => trivial
  | fail e => trivial
  | call c => trivial
  | attempt p ih => exact ⟨id, ih⟩
  | both p q ihp ihq => exact ⟨ihp, ihq⟩
  | beside p ps ihp ihps => exact ⟨ihp, ihps⟩
  | inTurn p ps ihp ihps => exact ⟨ihp, ihps⟩
  | andThen p k ihp ihk => exact ⟨ihp, ihk⟩

namespace Flight

/-- A flight that waits for calls of a contract only, and starts no others. -/
def Within (K : Contract) : {α : Type} → Flight α → Prop
  | _, .landed _ => True
  | _, .waiting _ c => K.waits c
  | _, .attempt f => ¬K.breaks ∧ Within K f
  | _, .both _ f g => Within K f ∧ Within K g
  | _, .beside f fs => Within K f ∧ Within K fs
  | _, .inTurn f fs => Within K f ∧ Within K fs
  | _, .andThen f k => Within K f ∧ ∀ a, (k a).Within K

/-- The course of a flight: the contract holds and the flight ends as it should, or the contract is
broken and the flight can only fail. -/
def Course (K : Contract) {α : Type} (P : Except ApiError α → Prop) (f : Flight α) (m : Memory) :
    Prop :=
  (K.holds m ∧ ∀ r, f.Outcome K.replies r → P r) ∨ (K.breaks ∧ f.Fails)

variable {K : Contract} {α β γ : Type} {f : Flight α} {g : Flight β} {fs : Flight (List α)}

/-! ### Flights put together -/

section Together

variable {replies : {α : Type} → Call α → Except ApiError α → Prop}

theorem within_attempted (hK : ¬K.breaks) (hf : f.Within K) : f.attempted.Within K := by
  simp only [attempted]
  split
  · trivial
  · exact ⟨hK, hf⟩

theorem within_pair (hf : f.Within K) (hg : g.Within K) (secondFirst : Bool) :
    (pair secondFirst f g).Within K := by
  simp only [pair]
  split
  · trivial
  · trivial
  · trivial
  · exact ⟨hf, hg⟩

theorem within_prepend (hf : f.Within K) (hfs : fs.Within K) : (prepend f fs).Within K := by
  simp only [prepend]
  split
  · trivial
  · trivial
  · trivial
  · exact ⟨hf, hfs⟩

theorem within_queue (hf : f.Within K) (hfs : fs.Within K) (blocked : Bool) :
    (queue blocked f fs).Within K := by
  simp only [queue]
  split
  · trivial
  · trivial
  · exact ⟨hf, hfs⟩

theorem outcome_of_outcome? {r : Except ApiError α} (h : f.outcome? = some r) :
    f.Outcome replies r := by
  rw [eq_landed h]
  rfl

theorem outcome_attempted {r : Except ApiError (Except ApiError α)}
    (h : f.attempted.Outcome replies r) : ∃ s, f.Outcome replies s ∧ r = .ok s := by
  simp only [attempted] at h
  split at h
  next s hs => exact ⟨s, outcome_of_outcome? hs, h⟩
  next => exact h

theorem outcome_pair {secondFirst : Bool} {r : Except ApiError (α × β)}
    (h : (pair secondFirst f g).Outcome replies r) :
    Joined (f.Outcome replies) (g.Outcome replies) Prod.mk r := by
  simp only [pair] at h
  split at h
  next a b hf hg => exact .inl ⟨a, b, outcome_of_outcome? hf, outcome_of_outcome? hg, h⟩
  next e hf => exact .inr ⟨e, .inl (outcome_of_outcome? hf), h⟩
  next e hg _ => exact .inr ⟨e, .inr (outcome_of_outcome? hg), h⟩
  next => exact h

theorem outcome_prepend {r : Except ApiError (List α)} (h : (prepend f fs).Outcome replies r) :
    Joined (f.Outcome replies) (fs.Outcome replies) List.cons r := by
  simp only [prepend] at h
  split at h
  next a as hf hfs => exact .inl ⟨a, as, outcome_of_outcome? hf, outcome_of_outcome? hfs, h⟩
  next e hf => exact .inr ⟨e, .inl (outcome_of_outcome? hf), h⟩
  next e hfs _ => exact .inr ⟨e, .inr (outcome_of_outcome? hfs), h⟩
  next => exact h

theorem outcome_queue {blocked : Bool} {r : Except ApiError (List α)}
    (h : (queue blocked f fs).Outcome replies r) :
    Joined (f.Outcome replies) (fs.Outcome replies) List.cons r := by
  simp only [queue] at h
  split at h
  next a as hf hfs => exact .inl ⟨a, as, outcome_of_outcome? hf, outcome_of_outcome? hfs, h⟩
  next a e hf hfs => exact .inr ⟨e, .inr (outcome_of_outcome? hfs), h⟩
  next => exact h

theorem error_of_joined {P : Except ApiError α → Prop} {Q : Except ApiError β → Prop}
    {join : α → β → γ} {r : Except ApiError γ}
    (hfail : (∀ s, P s → ∃ e, s = .error e) ∨ (∀ s, Q s → ∃ e, s = .error e))
    (h : Joined P Q join r) : ∃ e, r = .error e := by
  rcases h with ⟨a, b, ha, hb, -⟩ | ⟨e, -, rfl⟩
  · rcases hfail with hP | hQ
    · obtain ⟨e, he⟩ := hP _ ha
      cases he
    · obtain ⟨e, he⟩ := hQ _ hb
      cases he
  · exact ⟨e, rfl⟩

end Together

/-! ### Courses -/

section Courses

variable {m m₁ m₂ : Memory} {P : Except ApiError α → Prop} {Q : Except ApiError β → Prop}
  {Ps : Except ApiError (List α) → Prop}

theorem Course.imp {P' : Except ApiError α → Prop} (h : Course K P f m) (hP : ∀ r, P r → P' r) :
    Course K P' f m :=
  Or.imp (fun h => ⟨h.1, fun r hr => hP r (h.2 r hr)⟩) id h

theorem Course.fail {P' : Except ApiError γ → Prop} {e : ApiError} (hf : f.failure? = some e)
    (h : Course K P f m) (hP : P (.error e) → P' (.error e)) :
    Course K P' (landed (.error e)) m := by
  rcases h with ⟨hm, hout⟩ | ⟨hK, -⟩
  · refine .inl ⟨hm, fun r hr => ?_⟩
    have herr : P (.error e) := by
      apply hout
      rw [failure?_eq_some hf]
      rfl
    cases hr
    exact hP herr
  · refine .inr ⟨hK, fun r hr => ?_⟩
    cases hr
    exact ⟨e, rfl⟩

theorem Course.attempted (hK : ¬K.breaks) (h : Course K P f m) :
    Course K (fun r => ∃ s, P s ∧ r = .ok s) f.attempted m := by
  rcases h with ⟨hm, hout⟩ | ⟨hbreaks, -⟩
  · refine .inl ⟨hm, fun r hr => ?_⟩
    obtain ⟨s, hs, rfl⟩ := outcome_attempted hr
    exact ⟨s, hout s hs, rfl⟩
  · exact absurd hbreaks hK

theorem Course.join {join : α → β → γ} {whole : Flight γ} (hf : Course K P f m₁)
    (hg : K.holds m₁ → Course K Q g m₂)
    (hwhole : ∀ {replies : {α : Type} → Call α → Except ApiError α → Prop} {r},
      whole.Outcome replies r → Joined (f.Outcome replies) (g.Outcome replies) join r) :
    Course K (Joined P Q join) whole m₂ := by
  rcases hf with ⟨hm₁, hfout⟩ | ⟨hK, hffail⟩
  · rcases hg hm₁ with ⟨hm₂, hgout⟩ | ⟨hK, hgfail⟩
    · exact .inl ⟨hm₂, fun r hr => (hwhole hr).mono hfout hgout⟩
    · exact .inr ⟨hK, fun r hr => error_of_joined (.inr hgfail) (hwhole hr)⟩
  · exact .inr ⟨hK, fun r hr => error_of_joined (.inl hffail) (hwhole hr)⟩

theorem Course.join_swapped {join : α → β → γ} {whole : Flight γ} (hg : Course K Q g m₁)
    (hf : K.holds m₁ → Course K P f m₂)
    (hwhole : ∀ {replies : {α : Type} → Call α → Except ApiError α → Prop} {r},
      whole.Outcome replies r → Joined (f.Outcome replies) (g.Outcome replies) join r) :
    Course K (Joined P Q join) whole m₂ := by
  rcases hg with ⟨hm₁, hgout⟩ | ⟨hK, hgfail⟩
  · rcases hf hm₁ with ⟨hm₂, hfout⟩ | ⟨hK, hffail⟩
    · exact .inl ⟨hm₂, fun r hr => (hwhole hr).mono hfout hgout⟩
    · exact .inr ⟨hK, fun r hr => error_of_joined (.inl hffail) (hwhole hr)⟩
  · exact .inr ⟨hK, fun r hr => error_of_joined (.inr hgfail) (hwhole hr)⟩

theorem Course.go {k : α → Plan β} {a : α} {next : Flight β} (ho : f.outcome? = some (.ok a))
    (hf : Course K P f m₁)
    (hk : K.holds m₁ → Course K ((k a).Outcome K.replies) next m₂) :
    Course K (Bound P fun a => (k a).Outcome K.replies) next m₂ := by
  rcases hf with ⟨hm₁, hout⟩ | ⟨-, hfail⟩
  · exact (hk hm₁).imp fun r hr => .inl ⟨a, hout _ (outcome_of_outcome? ho), hr⟩
  · obtain ⟨e, he⟩ := hfail _ (outcome_of_outcome? ho)
    cases he

theorem Course.wait {k : α → Plan β} (hf : Course K P f m) :
    Course K (Bound P fun a => (k a).Outcome K.replies) (andThen f k) m := by
  rcases hf with ⟨hm, hout⟩ | ⟨hK, hfail⟩
  · exact .inl ⟨hm, fun r hr => Bound.mono hout hr⟩
  · refine .inr ⟨hK, fun r hr => ?_⟩
    rcases hr with ⟨a, ha, -⟩ | ⟨e, -, rfl⟩
    · obtain ⟨e, he⟩ := hfail _ ha
      cases he
    · exact ⟨e, rfl⟩

theorem course_answer (hK : K.Kept) {c : Call α} (hm : K.holds m) (hc : K.waits c) :
    Course K (K.replies c) (landed (m.answer c).1) (m.answer c).2 := by
  rcases hK.answer hm hc with ⟨hm', hr⟩ | ⟨hbreaks, e, he⟩
  · exact .inl ⟨hm', fun r h => h ▸ hr⟩
  · exact .inr ⟨hbreaks, fun r h => ⟨e, h.trans he⟩⟩

end Courses

/-! ### Starting -/

theorem within_startCall (hK : K.Kept) {c : Call α} (hc : K.starts c) (m : Memory) :
    (startCall c m).1.Within K := by
  unfold startCall
  simp only
  split
  · exact hK.waits hc
  · trivial

theorem within_start (hK : K.Kept) (p : Plan α) :
    ∀ (b : Bool) (m : Memory), p.Within K → (start b p m).1.Within K := by
  induction p with
  | done a => exact fun _ _ _ => trivial
  | fail e => exact fun _ _ _ => trivial
  | call c => exact fun _ m hc => within_startCall hK hc m
  | attempt p ih =>
      intro b m hp
      simp only [start]
      exact within_attempted hp.1 (ih false m hp.2)
  | both p q ihp ihq =>
      intro b m hp
      simp only [start]
      split
      · trivial
      · exact within_pair (ihp false m hp.1) (ihq false _ hp.2) true
  | beside p ps ihp ihps =>
      intro b m hp
      simp only [start]
      split
      · trivial
      · exact within_prepend (ihp false m hp.1) (ihps false _ hp.2)
  | inTurn p ps ihp ihps =>
      intro b m hp
      simp only [start]
      split
      · trivial
      · exact within_queue (ihp false m hp.1) (ihps _ _ hp.2) _
  | andThen p k ihp ihk =>
      intro b m hp
      simp only [start]
      split
      next a _ => exact ihk a false _ (hp.2 a)
      · trivial
      · exact ⟨ihp false m hp.1, hp.2⟩

/-- A plan that starts ends as it should, or it has failed by breaking the contract. -/
theorem course_start (hK : K.Kept) (p : Plan α) : ∀ (b : Bool) (m : Memory), p.Within K →
    K.holds m → Course K (p.Outcome K.replies) (start b p m).1 (start b p m).2 := by
  induction p with
  | done a => exact fun _ _ _ hm => .inl ⟨hm, fun _ h => h⟩
  | fail e => exact fun _ _ _ hm => .inl ⟨hm, fun _ h => h⟩
  | call c =>
      intro b m hc hm
      have hnoted := hK.note hm hc
      simp only [start, startCall]
      split
      · exact .inl ⟨hK.hold hnoted, fun _ h => h⟩
      · exact course_answer hK hnoted (hK.waits hc)
  | attempt p ih =>
      intro b m hp hm
      simp only [start]
      exact (ih false m hp.2 hm).attempted hp.1
  | both p q ihp ihq =>
      intro b m hp hm
      have hf := ihp false m hp.1 hm
      simp only [start]
      split
      next e hfail => exact hf.fail hfail fun he => .inr ⟨e, .inl he, rfl⟩
      next => exact hf.join (ihq false _ hp.2) outcome_pair
  | beside p ps ihp ihps =>
      intro b m hp hm
      have hf := ihp false m hp.1 hm
      simp only [start]
      split
      next e hfail => exact hf.fail hfail fun he => .inr ⟨e, .inl he, rfl⟩
      next => exact hf.join (ihps false _ hp.2) outcome_prepend
  | inTurn p ps ihp ihps =>
      intro b m hp hm
      have hf := ihp false m hp.1 hm
      simp only [start]
      split
      next e hfail => exact hf.fail hfail fun he => .inr ⟨e, .inl he, rfl⟩
      next => exact hf.join (ihps _ _ hp.2) outcome_queue
  | andThen p k ihp ihk =>
      intro b m hp hm
      have hf := ihp false m hp.1 hm
      simp only [start]
      split
      next a ho => exact hf.go ho (ihk a false _ (hp.2 a))
      next e ho =>
          have hfail : (start false p m).1.failure? = some e := by
            simp only [failure?]
            rw [ho]
          exact hf.fail hfail fun he => .inr ⟨e, he, rfl⟩
      next => exact hf.wait

/-! ### Going on -/

theorem within_advance (hK : K.Kept) (f : Flight α) :
    ∀ (b : Bool) (m : Memory), f.Within K → (advance b f m).1.Within K := by
  induction f with
  | landed r => exact fun _ _ _ => trivial
  | waiting ticket c =>
      intro b m hc
      simp only [advance]
      split
      · exact hc
      · trivial
  | attempt f ih =>
      intro b m hf
      simp only [advance]
      exact within_attempted hf.1 (ih false m hf.2)
  | both secondFirst f g ihf ihg =>
      intro b m hf
      cases secondFirst with
      | false =>
          simp only [advance]
          split
          · trivial
          · exact within_pair (ihf false m hf.1) (ihg false _ hf.2) true
      | true =>
          simp only [advance]
          split
          · trivial
          · exact within_pair (ihf false _ hf.1) (ihg false m hf.2) false
  | beside f fs ihf ihfs =>
      intro b m hf
      simp only [advance]
      split
      · trivial
      · exact within_prepend (ihf false m hf.1) (ihfs false _ hf.2)
  | inTurn f fs ihf ihfs =>
      intro b m hf
      simp only [advance]
      split
      · trivial
      · exact within_queue (ihf false m hf.1) (ihfs _ _ hf.2) _
  | andThen f k ihf =>
      intro b m hf
      simp only [advance]
      split
      next a _ => exact within_start hK (k a) false _ (hf.2 a)
      · trivial
      · exact ⟨ihf false m hf.1, hf.2⟩

theorem course_advance (hK : K.Kept) (f : Flight α) : ∀ (b : Bool) (m : Memory), f.Within K →
    K.holds m → Course K (f.Outcome K.replies) (advance b f m).1 (advance b f m).2 := by
  induction f with
  | landed r => exact fun _ _ _ hm => .inl ⟨hm, fun _ h => h⟩
  | waiting ticket c =>
      intro b m hc hm
      simp only [advance]
      split
      · exact .inl ⟨hm, fun _ h => h⟩
      · exact course_answer hK hm hc
  | attempt f ih =>
      intro b m hf hm
      simp only [advance]
      exact (ih false m hf.2 hm).attempted hf.1
  | both secondFirst f g ihf ihg =>
      intro b m hf hm
      cases secondFirst with
      | false =>
          have hfirst := ihf false m hf.1 hm
          simp only [advance]
          split
          next e hfail => exact hfirst.fail hfail fun he => .inr ⟨e, .inl he, rfl⟩
          next => exact hfirst.join (ihg false _ hf.2) outcome_pair
      | true =>
          have hfirst := ihg false m hf.2 hm
          simp only [advance]
          split
          next e hfail => exact hfirst.fail hfail fun he => .inr ⟨e, .inr he, rfl⟩
          next => exact hfirst.join_swapped (ihf false _ hf.1) outcome_pair
  | beside f fs ihf ihfs =>
      intro b m hf hm
      have hfirst := ihf false m hf.1 hm
      simp only [advance]
      split
      next e hfail => exact hfirst.fail hfail fun he => .inr ⟨e, .inl he, rfl⟩
      next => exact hfirst.join (ihfs false _ hf.2) outcome_prepend
  | inTurn f fs ihf ihfs =>
      intro b m hf hm
      have hfirst := ihf false m hf.1 hm
      simp only [advance]
      split
      next e hfail => exact hfirst.fail hfail fun he => .inr ⟨e, .inl he, rfl⟩
      next => exact hfirst.join (ihfs _ _ hf.2) outcome_queue
  | andThen f k ihf =>
      intro b m hf hm
      have hfirst := ihf false m hf.1 hm
      simp only [advance]
      split
      next a ho => exact hfirst.go ho (course_start hK (k a) false _ (hf.2 a))
      next e ho =>
          have hfail : (advance false f m).1.failure? = some e := by
            simp only [failure?]
            rw [ho]
          exact hfirst.fail hfail fun he => .inr ⟨e, he, rfl⟩
      next => exact hfirst.wait

/-! ### A flight that can only fail -/

theorem within_anything (f : Flight α) : f.Within Contract.anything := by
  induction f with
  | landed r => trivial
  | waiting ticket c => trivial
  | attempt f ih => exact ⟨id, ih⟩
  | both secondFirst f g ihf ihg => exact ⟨ihf, ihg⟩
  | beside f fs ihf ihfs => exact ⟨ihf, ihfs⟩
  | inTurn f fs ihf ihfs => exact ⟨ihf, ihfs⟩
  | andThen f k ih => exact ⟨ih, fun a => (k a).within_anything⟩

theorem Fails.advance (h : f.Fails) (b : Bool) (m : Memory) : (advance b f m).1.Fails := by
  rcases course_advance Contract.kept_anything f b m f.within_anything trivial with
    ⟨-, hout⟩ | ⟨hfalse, -⟩
  · exact fun r hr => h r (hout r hr)
  · exact hfalse.elim

/-! ### The whole way -/

/-- A flight on its way under a contract. -/
structure Along (K : Contract) (P : Except ApiError α → Prop) (f : Flight α) (m : Memory) :
    Prop where
  within : f.Within K
  course : Course K P f m

theorem Along.goOn {P : Except ApiError α → Prop} (hK : K.Kept) {m m' : Memory}
    (h : Along K P f m) (hm' : K.holds m → K.holds m') :
    Along K P (f.poll m').1 (f.poll m').2 where
  within := within_advance hK f false m' h.within
  course := by
    rcases h.course with ⟨hm, hout⟩ | ⟨hbreaks, hfail⟩
    · exact (course_advance hK f false m' h.within (hm' hm)).imp hout
    · exact .inr ⟨hbreaks, hfail.advance false m'⟩

theorem Along.poll {P : Except ApiError α → Prop} (hK : K.Kept) {m m' : Memory}
    (h : Along K P f m) (hrelease : m.release? = some m') :
    Along K P (f.poll m').1 (f.poll m').2 :=
  h.goOn hK fun hm => hK.release hm hrelease

/-- How a plan ends under a contract: as it should and with the contract kept, or with a failure that
has broken it. -/
def Ended (K : Contract) (P : Except ApiError α → Prop) (r : Except ApiError α) (m : Memory) :
    Prop :=
  (K.holds m ∧ P r) ∨ (K.breaks ∧ ∃ e, r = .error e)

theorem Along.ended {P : Except ApiError α → Prop} {r : Except ApiError α} {m : Memory}
    (h : Along K P (landed r) m) : Ended K P r m :=
  Or.imp (fun h => ⟨h.1, h.2 r rfl⟩) (fun h => ⟨h.1, h.2 r rfl⟩) h.course

/-- **A plan that is carried out under a contract ends with one of its outcomes.** -/
theorem carryOut_along (hK : K.Kept) {p : Plan α} (hp : p.Within K) {m : Memory} (hm : K.holds m) :
    ∃ waits r m', carryOut p m = (waits, r, m') ∧ Ended K (p.Outcome K.replies) r m' := by
  have hlaunch : Along K (p.Outcome K.replies) (launch p m).1 (launch p m).2 :=
    ⟨within_start hK p false m hp, course_start hK p false m hp hm⟩
  obtain ⟨waits, r, m', hcarry, hend⟩ := carryOut_ends (fun _ => Along.poll hK) hlaunch
  exact ⟨waits, r, m', hcarry, hend.ended⟩

end Flight

end AdminConsole
