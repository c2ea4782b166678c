/-
# `Proofs.Api.Reading` — plans that only read

A call reads when its method is GET or OPTIONS.  Such calls are answered as the
service stood when the plan began, since answering them does not change what it
keeps (`serve_reads`).  So two contracts say everything about plans of such calls:

* all that is noted down while they are carried out reads too
  (`noted_carryOut`), and
* either some rule refuses, which ends the plan, or every call is served
  (`Contract.serving`).

For the page of a list both come together: it is what the service keeps, unless a
rule refuses the listing or the schema (`carryOut_pagePlan`).
-/
import AdminConsole.Proofs.Api.Contract
import AdminConsole.Screen.Operation

namespace AdminConsole

/-- Whether a noted call only reads. -/
def CallRecord.reads (r : CallRecord) : Bool := r.method == "GET" || r.method == "OPTIONS"

/-- The calls noted between two states of the service; `deeds` are those that do not only read. -/
def Memory.Noted (m m' : Memory) (deeds : List CallRecord) : Prop :=
  ∃ calls, m'.log = m.log ++ calls ∧ (calls.filter fun r => !r.reads) = deeds

namespace Memory

variable {m m' m'' : Memory} {α : Type}

theorem Noted.refl (m : Memory) : Noted m m [] := ⟨[], (List.append_nil _).symm, rfl⟩

theorem Noted.trans {ds es : List CallRecord} (h : Noted m m' ds) (h' : Noted m' m'' es) :
    Noted m m'' (ds ++ es) := by
  obtain ⟨calls, hlog, rfl⟩ := h
  obtain ⟨calls', hlog', rfl⟩ := h'
  exact ⟨calls ++ calls', by rw [hlog', hlog, List.append_assoc], List.filter_append ..⟩

theorem Noted.trans_nil {ds : List CallRecord} (h : Noted m m' ds) (h' : Noted m' m'' []) :
    Noted m m'' ds := by
  have := h.trans h'
  rwa [List.append_nil] at this

theorem Noted.nil_trans {ds : List CallRecord} (h : Noted m m' []) (h' : Noted m' m'' ds) :
    Noted m m'' ds := h.trans h'

theorem noted_of_reads {calls : List CallRecord} (hlog : m'.log = m.log ++ calls)
    (h : ∀ r ∈ calls, r.reads = true) : Noted m m' [] := by
  refine ⟨calls, hlog, List.filter_eq_nil_iff.mpr fun r hr => ?_⟩
  simp [h r hr]

theorem SameData.listing (same : SameData m m') (path : String) (params : Query.Params) :
    m'.listing path params = m.listing path params := by
  simp only [Memory.listing, rowsAt]
  rw [same.rows, same.counts]

theorem serve_reads {c : Call α} (h : c.record.reads = true) (same : SameData m m') :
    m'.serve c = ((m.serve c).1, m') := by
  cases c with
  | list e params => simp only [serve, same.listing]
  | read k id =>
      simp only [serve, rowsAt, same.rows]
      cases ((m.rows.get? (Endpoint.collection k).path).getD []).find? fun i => i.id == id <;> rfl
  | schema k => simp only [serve, same.schemas]
  | create k body => cases h
  | update k id body => cases h
  | destroy k id => cases h
  | associate e request => cases h
  | fetch e params =>
      simp only [serve, same.documents]
      cases m.documents.get? e.path <;> rfl

end Memory

/-! ## Contracts of reading plans -/

namespace Contract

/-- Only reading calls are started, and noted down behind `log`. -/
def reading (log : List CallRecord) : Contract where
  starts c := c.record.reads = true
  waits _ := True
  holds m := ∃ calls, m.log = log ++ calls ∧ ∀ r ∈ calls, r.reads = true
  replies := anyReply
  breaks := False

theorem kept_reading (log : List CallRecord) : (reading log).Kept where
  waits _ := trivial
  note := by
    rintro α c m ⟨calls, hlog, hreads⟩ hc
    refine ⟨calls ++ [c.record], ?_, ?_⟩
    · show m.log ++ [c.record] = _
      rw [hlog, List.append_assoc]
    · intro r hr
      rcases List.mem_append.mp hr with hr | hr
      · exact hreads r hr
      · rw [List.mem_singleton.mp hr]
        exact hc
  hold h := h
  release := by
    intro m m' h hrelease
    obtain ⟨_, _, -, rfl⟩ := Memory.release?_eq_some hrelease
    exact h
  answer := by
    rintro α c m ⟨calls, hlog, hreads⟩ -
    exact .inl ⟨⟨calls, by rw [(m.sameTraffic_answer c).log, hlog], hreads⟩, trivial⟩

/-- Only reading calls are started, and what is kept stays as it is. -/
def keeping (m₀ : Memory) : Contract where
  starts c := c.record.reads = true
  waits c := c.record.reads = true
  holds m := m₀.SameData m
  replies := anyReply
  breaks := False

theorem kept_keeping (m₀ : Memory) : (keeping m₀).Kept where
  waits h := h
  note h _ := ⟨h.rows, h.counts, h.schemas, h.documents⟩
  hold h := ⟨h.rows, h.counts, h.schemas, h.documents⟩
  release := by
    intro m m' h hrelease
    obtain ⟨_, _, -, rfl⟩ := Memory.release?_eq_some hrelease
    exact ⟨h.rows, h.counts, h.schemas, h.documents⟩
  answer := by
    intro α c m h hreads
    rcases m.answer_cases c with ⟨e, rules, -, hanswer⟩ | ⟨-, hanswer⟩
    · rw [hanswer]
      exact .inl ⟨⟨h.rows, h.counts, h.schemas, h.documents⟩, trivial⟩
    · rw [hanswer, Memory.serve_reads hreads h]
      exact .inl ⟨h, trivial⟩

/-- Every call is served as `m₀` would serve it.  A refused call breaks this, unless it is `clear`
that no rule refuses any of the calls. -/
def serving (m₀ : Memory) (clear : Prop) : Contract where
  starts c := c.record.reads = true ∧ (clear → m₀.refuses c.method c.endpoint.path = false)
  waits c := c.record.reads = true ∧ (clear → m₀.refuses c.method c.endpoint.path = false)
  holds m := m₀.SameData m ∧ m.rules = m₀.rules
  replies c r := m₀.refuses c.method c.endpoint.path = false ∧ r = (m₀.serve c).1
  breaks := ¬clear

theorem kept_serving (m₀ : Memory) (clear : Prop) : (serving m₀ clear).Kept where
  waits h := h
  note h _ := ⟨⟨h.1.rows, h.1.counts, h.1.schemas, h.1.documents⟩, h.2⟩
  hold h := ⟨⟨h.1.rows, h.1.counts, h.1.schemas, h.1.documents⟩, h.2⟩
  release := by
    intro m m' h hrelease
    obtain ⟨_, _, -, rfl⟩ := Memory.release?_eq_some hrelease
    exact ⟨⟨h.1.rows, h.1.counts, h.1.schemas, h.1.documents⟩, h.2⟩
  answer := by
    rintro α c m ⟨hdata, hrules⟩ ⟨hreads, hclear⟩
    have hrefuses : m.refuses c.method c.endpoint.path = m₀.refuses c.method c.endpoint.path := by
      simp only [Memory.refuses]
      rw [hrules]
    rcases m.answer_cases c with ⟨e, rules, hrefused, hanswer⟩ | ⟨hserved, hanswer⟩
    · refine .inr ⟨fun hc => ?_, e, by rw [hanswer]⟩
      rw [hrefuses, hclear hc] at hrefused
      cases hrefused
    · have hserve := Memory.serve_reads hreads hdata
      rw [hanswer, hserve]
      exact .inl ⟨⟨hdata, hrules⟩, hrefuses.symm.trans hserved, rfl⟩

/-- Listings may be started under a contract. -/
def LetsList (K : Contract) : Prop :=
  ∀ (e : Endpoint) (params : Query.Params), K.starts (.list e params)

end Contract

/-! ## Plans put together -/

namespace Plan

variable {K : Contract} {α β : Type}

theorem within_map {f : α → β} {p : Plan α} (h : p.Within K) : (p.map f).Within K :=
  ⟨h, fun _ => trivial⟩

theorem within_allBeside {ps : List (Plan α)} (h : ∀ p ∈ ps, p.Within K) :
    (allBeside ps).Within K := by
  induction ps with
  | nil => trivial
  | cons p ps ih =>
      obtain ⟨hp, hps⟩ := List.forall_mem_cons.mp h
      exact ⟨hp, ih hps⟩

theorem within_allInTurn {ps : List (Plan α)} (h : ∀ p ∈ ps, p.Within K) :
    (allInTurn ps).Within K := by
  induction ps with
  | nil => trivial
  | cons p ps ih =>
      obtain ⟨hp, hps⟩ := List.forall_mem_cons.mp h
      exact ⟨hp, ih hps⟩

theorem within_all {ps : List (Plan α)} (h : ∀ p ∈ ps, p.Within K) : (all ps).Within K := by
  simp only [all]
  split
  · exact within_allBeside h
  · exact within_allInTurn h

end Plan

/-! ## Carrying out what reads -/

/-- Everything that is noted down while a reading plan is carried out reads. -/
theorem noted_carryOut {α : Type} {p : Plan α} {m : Memory}
    (h : p.Within (Contract.reading m.log)) : m.Noted (Service.carryOutIn p m).2 [] := by
  have hm : (Contract.reading m.log).holds m :=
    ⟨[], (List.append_nil _).symm, fun _ hr => absurd hr List.not_mem_nil⟩
  obtain ⟨waits, r, m', hcarry, hend⟩ :=
    Flight.carryOut_along (Contract.kept_reading m.log) h hm
  simp only [Service.carryOutIn]
  rw [hcarry]
  rcases hend with ⟨⟨calls, hlog, hreads⟩, -⟩ | ⟨hfalse, -⟩
  · exact Memory.noted_of_reads hlog hreads
  · exact hfalse.elim

theorem sameData_carryOut {α : Type} {p : Plan α} {m : Memory}
    (h : p.Within (Contract.keeping m)) : m.SameData (Service.carryOutIn p m).2 := by
  obtain ⟨waits, r, m', hcarry, hend⟩ :=
    Flight.carryOut_along (Contract.kept_keeping m) h (Memory.SameData.refl m)
  simp only [Service.carryOutIn]
  rw [hcarry]
  rcases hend with ⟨hdata, -⟩ | ⟨hfalse, -⟩
  · exact hdata
  · exact hfalse.elim

/-! ## The page of a list -/

section Page

variable (s : Screen) (m : Memory)

/-- The page that the service keeps for a screen. -/
def Memory.pageFor : Page :=
  let listing := m.listing s.endpoint.path s.params
  ⟨listing.results, listing.count, (m.schemas.get? s.kind.name).getD Schema.empty⟩

theorem Memory.SameData.pageFor {m m' : Memory} (same : m.SameData m') (s : Screen) :
    m'.pageFor s = m.pageFor s := by
  simp only [Memory.pageFor]
  rw [same.listing, same.schemas]

/-- Whether a rule refuses the listing or the schema of a screen. -/
def Memory.refusesPage : Bool :=
  m.refuses "GET" s.endpoint.path || m.refuses "OPTIONS" (Endpoint.collection s.kind).path

theorem noted_pagePlan : m.Noted (Service.carryOutIn s.pagePlan m).2 [] :=
  noted_carryOut ⟨⟨rfl, rfl⟩, fun _ => trivial⟩

theorem sameData_pagePlan : m.SameData (Service.carryOutIn s.pagePlan m).2 :=
  sameData_carryOut ⟨⟨rfl, rfl⟩, fun _ => trivial⟩

theorem outcome_pagePlan {clear : Prop} {r : Except ApiError Page}
    (h : s.pagePlan.Outcome (Contract.serving m clear).replies r) :
    m.refusesPage s = false ∧ r = .ok (m.pageFor s) := by
  have served : ∀ {r₁ : Except ApiError (Listing Item)} {r₂ : Except ApiError Schema},
      (Contract.serving m clear).replies (.list s.endpoint s.params) r₁ →
      (Contract.serving m clear).replies (.schema s.kind) r₂ →
      m.refusesPage s = false ∧ r₁ = .ok (m.listing s.endpoint.path s.params) ∧
        r₂ = .ok ((m.schemas.get? s.kind.name).getD Schema.empty) := by
    rintro r₁ r₂ ⟨hlist, h₁⟩ ⟨hschema, h₂⟩
    refine ⟨?_, h₁, h₂⟩
    simp only [Memory.refusesPage]
    exact Bool.or_eq_false_iff.mpr ⟨hlist, hschema⟩
  rcases h with ⟨pair, hpair, rfl⟩ | ⟨e, herror, rfl⟩
  · rcases hpair with ⟨l, sch, hl, hsch, heq⟩ | ⟨e, -, heq⟩
    · cases heq
      obtain ⟨hclear, hl', hsch'⟩ := served hl hsch
      cases hl'
      cases hsch'
      exact ⟨hclear, rfl⟩
    · cases heq
  · rcases herror with ⟨l, sch, -, -, heq⟩ | ⟨e', he, heq⟩
    · cases heq
    · -- neither call can be served with a failure
      rcases he with ⟨-, h₁⟩ | ⟨-, h₂⟩
      · cases h₁
      · cases h₂

/-- A screen's page is the one that is kept, unless a rule refuses a call for it. -/
theorem carryOut_pagePlan :
    (m.refusesPage s = false → (Service.carryOutIn s.pagePlan m).1 = .ok (m.pageFor s)) ∧
      (m.refusesPage s = true → ∃ e, (Service.carryOutIn s.pagePlan m).1 = .error e) := by
  have hm : ∀ clear, (Contract.serving m clear).holds m := fun _ => ⟨Memory.SameData.refl m, rfl⟩
  constructor
  · intro hclear
    obtain ⟨hlist, hschema⟩ := Bool.or_eq_false_iff.mp hclear
    have hwithin : s.pagePlan.Within (Contract.serving m True) :=
      ⟨⟨⟨rfl, fun _ => hlist⟩, rfl, fun _ => hschema⟩, fun _ => trivial⟩
    obtain ⟨waits, r, m', hcarry, hend⟩ :=
      Flight.carryOut_along (Contract.kept_serving m True) hwithin (hm True)
    simp only [Service.carryOutIn]
    rw [hcarry]
    rcases hend with ⟨-, hout⟩ | ⟨hbreaks, -⟩
    · exact (outcome_pagePlan s m hout).2
    · exact absurd trivial hbreaks
  · intro hrefused
    have hwithin : s.pagePlan.Within (Contract.serving m False) :=
      ⟨⟨⟨rfl, False.elim⟩, rfl, False.elim⟩, fun _ => trivial⟩
    obtain ⟨waits, r, m', hcarry, hend⟩ :=
      Flight.carryOut_along (Contract.kept_serving m False) hwithin (hm False)
    simp only [Service.carryOutIn]
    rw [hcarry]
    rcases hend with ⟨-, hout⟩ | ⟨-, e, he⟩
    · rw [(outcome_pagePlan s m hout).1] at hrefused
      cases hrefused
    · exact ⟨e, he⟩

end Page

end AdminConsole
