/-
# `Proofs.Api.Lookup` — plans that look things up

A plan that only lists has its result in the service before it starts: which
listings it comes to, and what it makes of them, is read off what is kept
(`Plan.LooksUp`).  The judgement follows the way a plan is put together, also
where a listing decides which ones come after it.

Two contracts carry it, because a rule may be used up on the way.

* As long as no rule has been used, a call that is answered at all is one that no
  rule refuses (`Contract.serving`).  So a plan that does not fail has come to no
  call that is refused.
* Using a rule refuses no other calls (`Contract.answering`).  So a plan none of
  whose calls is refused at the start fails in no order.

Together they settle the end of such a plan for all orders in which its calls go
on (`Plan.LooksUp.ends`).
-/
import AdminConsole.Proofs.Api.Reading
import AdminConsole.Proofs.Api.Schedule

namespace AdminConsole

/-- Whether some rule refuses one of the listings. -/
def Memory.refusesAny (m : Memory) (lookups : List (Call (Listing Item))) : Bool :=
  lookups.any fun c => m.refuses c.method c.endpoint.path

theorem Memory.refusesAny_append (m : Memory) (ls ls' : List (Call (Listing Item))) :
    m.refusesAny (ls ++ ls') = (m.refusesAny ls || m.refusesAny ls') := List.any_append

/-! ## Answers while nothing is written -/

namespace Contract

/-- Only reading calls are started.  What `m₀` keeps stays as it is, and no call is refused that it
did not refuse. -/
def answering (m₀ : Memory) : Contract where
  starts c := c.record.reads = true
  waits c := c.record.reads = true
  holds m := m₀.SameData m ∧
    ∀ method path, m.refuses method path = true → m₀.refuses method path = true
  replies c r := m₀.refuses c.method c.endpoint.path = false → r = (m₀.serve c).1
  breaks := False

theorem kept_answering (m₀ : Memory) : (answering m₀).Kept where
  waits h := h
  note h _ := ⟨⟨h.1.rows, h.1.counts, h.1.schemas, h.1.documents⟩, h.2⟩
  hold h := ⟨⟨h.1.rows, h.1.counts, h.1.schemas, h.1.documents⟩, h.2⟩
  release := by
    intro m m' h hrelease
    obtain ⟨_, _, -, rfl⟩ := Memory.release?_eq_some hrelease
    exact ⟨⟨h.1.rows, h.1.counts, h.1.schemas, h.1.documents⟩, h.2⟩
  answer := by
    rintro α c m ⟨hdata, hfewer⟩ hreads
    have hrefusals : ∀ method path, (m.answer c).2.refuses method path = true →
        m₀.refuses method path = true :=
      fun method path h => hfewer method path (Memory.refuses_of_answer h)
    rcases m.answer_cases c with ⟨e, rules, hrefused, hanswer⟩ | ⟨-, hanswer⟩
    · rw [hanswer] at hrefusals ⊢
      refine .inl ⟨⟨⟨hdata.rows, hdata.counts, hdata.schemas, hdata.documents⟩, hrefusals⟩,
        fun hserved => ?_⟩
      rw [hfewer _ _ hrefused] at hserved
      cases hserved
    · have hserve := Memory.serve_reads hreads hdata
      rw [hanswer, hserve]
      exact .inl ⟨⟨hdata, hfewer⟩, fun _ => rfl⟩

end Contract

/-! ## What a plan looks up -/

namespace Plan

variable {α β : Type} {m : Memory}

/-- A plan looks up some listings and has a value, as far as `m` decides that: it starts listings
only; when none of them is refused it has the value, and when it is served it comes to all of them. -/
structure LooksUp (m : Memory) (p : Plan α) (lookups : List (Call (Listing Item))) (a : α) :
    Prop where
  lists : ∀ {K : Contract}, K.LetsList → p.Within K
  value : m.refusesAny lookups = false →
    ∀ r, p.Outcome (Contract.answering m).replies r → r = .ok a
  served : ∀ r, p.Outcome (Contract.serving m False).replies r →
    m.refusesAny lookups = false ∧ r = .ok a

namespace LooksUp

variable {ls ls' : List (Call (Listing Item))} {a : α} {b : β}

theorem done (a : α) : LooksUp m (.done a) [] a where
  lists _ := trivial
  value _ _ hr := hr
  served _ hr := ⟨rfl, hr⟩

theorem call (e : Endpoint) (params : Query.Params) :
    LooksUp m (.call (.list e params)) [.list e params] (m.listing e.path params) where
  lists lets := lets e params
  value := by
    intro hclear r hr
    exact hr ((Bool.or_false _).symm.trans hclear)
  served := by
    rintro r ⟨hclear, hr⟩
    exact ⟨(Bool.or_false _).trans hclear, hr⟩

theorem andThen {p : Plan α} {k : α → Plan β} (hp : LooksUp m p ls a)
    (hk : LooksUp m (k a) ls' b)
    (hlists : ∀ {K : Contract}, K.LetsList → ∀ a, (k a).Within K) :
    LooksUp m (p.andThen k) (ls ++ ls') b where
  lists lets := ⟨hp.lists lets, hlists lets⟩
  value := by
    intro hclear r hr
    rw [Memory.refusesAny_append] at hclear
    obtain ⟨hclear, hclear'⟩ := Bool.or_eq_false_iff.mp hclear
    rcases hr with ⟨a', ha', hr⟩ | ⟨e, he, -⟩
    · cases hp.value hclear _ ha'
      exact hk.value hclear' r hr
    · cases hp.value hclear _ he
  served := by
    intro r hr
    rcases hr with ⟨a', ha', hr⟩ | ⟨e, he, -⟩
    · obtain ⟨hclear, heq⟩ := hp.served _ ha'
      cases heq
      obtain ⟨hclear', hr'⟩ := hk.served r hr
      rw [Memory.refusesAny_append]
      exact ⟨Bool.or_eq_false_iff.mpr ⟨hclear, hclear'⟩, hr'⟩
    · cases (hp.served _ he).2

theorem map {p : Plan α} (f : α → β) (hp : LooksUp m p ls a) : LooksUp m (p.map f) ls (f a) := by
  have h := hp.andThen (k := fun a => .done (f a)) (.done (f a)) fun _ _ => trivial
  rwa [List.append_nil] at h

/-! ### Side by side -/

theorem of_joined {γ : Type} {P : Except ApiError α → Prop} {Q : Except ApiError β → Prop}
    {join : α → β → γ} {r : Except ApiError γ} (hP : ∀ r, P r → r = .ok a)
    (hQ : ∀ r, Q r → r = .ok b) (h : Joined P Q join r) :
    r = .ok (join a b) ∧ P (.ok a) ∧ Q (.ok b) := by
  rcases h with ⟨a', b', ha, hb, rfl⟩ | ⟨e, he | he, rfl⟩
  · cases hP _ ha
    cases hQ _ hb
    exact ⟨rfl, ha, hb⟩
  · cases hP _ he
  · cases hQ _ he

theorem join {γ : Type} {p : Plan α} {q : Plan β} {whole : Plan γ} {join : α → β → γ}
    (hp : LooksUp m p ls a) (hq : LooksUp m q ls' b)
    (hwithin : ∀ {K : Contract}, p.Within K → q.Within K → whole.Within K)
    (hwhole : ∀ {replies : {α : Type} → Call α → Except ApiError α → Prop} {r},
      whole.Outcome replies r → Joined (p.Outcome replies) (q.Outcome replies) join r) :
    LooksUp m whole (ls ++ ls') (join a b) where
  lists lets := hwithin (hp.lists lets) (hq.lists lets)
  value := by
    intro hclear r hr
    rw [Memory.refusesAny_append] at hclear
    obtain ⟨hclear, hclear'⟩ := Bool.or_eq_false_iff.mp hclear
    exact (of_joined (hp.value hclear) (hq.value hclear') (hwhole hr)).1
  served := by
    intro r hr
    obtain ⟨heq, ha, hb⟩ :=
      of_joined (fun s hs => (hp.served s hs).2) (fun s hs => (hq.served s hs).2) (hwhole hr)
    rw [Memory.refusesAny_append]
    exact ⟨Bool.or_eq_false_iff.mpr ⟨(hp.served _ ha).1, (hq.served _ hb).1⟩, heq⟩

section All

variable {ι : Type} {plan : ι → Plan α} {lookups : ι → List (Call (Listing Item))} {value : ι → α}
  {xs : List ι}

theorem allBeside (h : ∀ x ∈ xs, LooksUp m (plan x) (lookups x) (value x)) :
    LooksUp m (Plan.allBeside (xs.map plan)) (xs.flatMap lookups) (xs.map value) := by
  induction xs with
  | nil => exact .done []
  | cons x xs ih =>
      obtain ⟨hx, hxs⟩ := List.forall_mem_cons.mp h
      rw [List.flatMap_cons]
      exact hx.join (ih hxs) (fun hp hps => ⟨hp, hps⟩) fun hr => hr

theorem allInTurn (h : ∀ x ∈ xs, LooksUp m (plan x) (lookups x) (value x)) :
    LooksUp m (Plan.allInTurn (xs.map plan)) (xs.flatMap lookups) (xs.map value) := by
  induction xs with
  | nil => exact .done []
  | cons x xs ih =>
      obtain ⟨hx, hxs⟩ := List.forall_mem_cons.mp h
      rw [List.flatMap_cons]
      exact hx.join (ih hxs) (fun hp hps => ⟨hp, hps⟩) fun hr => hr

theorem all (h : ∀ x ∈ xs, LooksUp m (plan x) (lookups x) (value x)) :
    LooksUp m (Plan.all (xs.map plan)) (xs.flatMap lookups) (xs.map value) := by
  simp only [Plan.all]
  split
  · exact allBeside h
  · exact allInTurn h

end All

/-! ### The end, in every order -/

/-- **A plan that looks things up has one result in all orders**: a failure if one of its listings is
refused, and otherwise its value. -/
theorem ends {p : Plan α} (h : LooksUp m p ls a) {m' : Memory} (same : m.SameData m')
    (hrules : m'.rules = m.rules) {r : Except ApiError α}
    (hr : (Flight.launch p m').1.EndsIn (Flight.launch p m').2 r) :
    (m.refusesAny ls = true ∧ ∃ e, r = .error e) ∨ (m.refusesAny ls = false ∧ r = .ok a) := by
  cases hclear : m.refusesAny ls with
  | true =>
      refine .inl ⟨rfl, ?_⟩
      have hend := Flight.endsIn_along (Contract.kept_serving m False)
        (fun hm => ⟨⟨hm.1.rows, hm.1.counts, hm.1.schemas, hm.1.documents⟩, hm.2⟩)
        (h.lists fun _ _ => ⟨rfl, False.elim⟩) ⟨same, hrules⟩ hr
      rcases hend with hout | ⟨-, hfail⟩
      · rw [(h.served r hout).1] at hclear
        cases hclear
      · exact hfail
  | false =>
      refine .inr ⟨rfl, ?_⟩
      have hrefusals : ∀ method path, m'.refuses method path = true →
          m.refuses method path = true := by
        intro method path hrefuses
        simp only [Memory.refuses] at hrefuses ⊢
        rwa [hrules] at hrefuses
      have hend := Flight.endsIn_along (Contract.kept_answering m)
        (fun hm => ⟨⟨hm.1.rows, hm.1.counts, hm.1.schemas, hm.1.documents⟩, hm.2⟩)
        (h.lists fun _ _ => rfl) ⟨same, hrefusals⟩ hr
      rcases hend with hout | ⟨hfalse, -⟩
      · exact h.value hclear r hout
      · exact hfalse.elim

end LooksUp

end Plan

end AdminConsole
