/-
# `Proofs.Api.Memory` — what each move of the kept service leaves alone

The service kept in memory moves in four ways: it notes a call down, holds one
back, lets one go and answers one.  Only an answer can touch what it keeps, and
only in two ways: a rule is used, and then the reply is its failure and nothing
else changes; or the call is served, and then rows may change and nothing else
does (`answer_cases`).

`patience` bounds the releases that can still be needed.  Holding a call back
uses up one of the holds, so it never grows (`patience_hold`).
-/
import AdminConsole.Api.Memory
import AdminConsole.Proofs.Dict

namespace AdminConsole

/-! ## Rules -/

/-- Whether some rule refuses calls with a method and path. -/
def Memory.refuses (m : Memory) (method path : String) : Bool :=
  m.rules.any (FailRule.applies method path)

/-- The failure of the next call with a method and path, if a rule refuses it. -/
def Memory.refusal? (m : Memory) (method path : String) : Option ApiError :=
  (FailRule.useFirst method path m.rules).map Prod.fst

namespace FailRule

theorem useFirst_eq_none {method path : String} {rules : List FailRule} :
    useFirst method path rules = none ↔ rules.any (applies method path) = false := by
  induction rules with
  | nil => simp [useFirst]
  | cons r rs ih =>
      simp only [useFirst]
      rw [List.any_cons]
      by_cases h : r.applies method path = true
      · simp [h]
      · rw [if_neg h, Option.map_eq_none_iff, ih]
        simp [h]

theorem not_applies_of_ne {r : FailRule} {method path method' path' : String}
    (h : r.applies method path = true) (hne : (method', path') ≠ (method, path)) :
    r.applies method' path' = false ∧ r.use.applies method' path' = false := by
  have happlies : r.method = method ∧ r.path = path := by
    simp only [applies, Bool.and_eq_true, beq_iff_eq] at h
    exact h.1
  have hother : (r.method == method' && r.path == path') = false := by
    rw [happlies.1, happlies.2, Bool.and_eq_false_iff, beq_eq_false_iff_ne, beq_eq_false_iff_ne]
    by_cases hm : method = method'
    · exact .inr fun hp => hne (by rw [hm, hp])
    · exact .inl hm
  simp only [applies, use, hother, Bool.false_and, and_self]

theorem useFirst_of_ne {method path method' path' : String} {rules used : List FailRule}
    {e : ApiError} (h : useFirst method path rules = some (e, used))
    (hne : (method', path') ≠ (method, path)) :
    (useFirst method' path' used).map Prod.fst = (useFirst method' path' rules).map Prod.fst := by
  induction rules generalizing used with
  | nil => cases h
  | cons r rs ih =>
      simp only [useFirst] at h
      split at h
      next happlies =>
          obtain ⟨hkept, hused⟩ := not_applies_of_ne happlies hne
          cases h
          simp only [useFirst, hkept, hused, Bool.false_eq_true, if_false, Option.map_map]
          rfl
      next =>
          obtain ⟨⟨e', used'⟩, hrest, heq⟩ := Option.map_eq_some_iff.mp h
          cases heq
          have hsame := ih hrest
          simp only [useFirst]
          split
          · rfl
          · rw [Option.map_map, Option.map_map]
            exact hsame

theorem applies_of_use {r : FailRule} {method path : String} (h : r.use.applies method path = true) :
    r.applies method path = true := by
  simp only [applies, use, hasUses, Bool.and_eq_true, bne_iff_ne, ne_eq] at h ⊢
  obtain ⟨hcall, huses⟩ := h
  refine ⟨hcall, fun hnone => huses ?_⟩
  rw [hnone]
  rfl

theorem any_applies_of_useFirst {method path method' path' : String} {rules used : List FailRule}
    {e : ApiError} (h : useFirst method path rules = some (e, used))
    (happlies : used.any (applies method' path') = true) :
    rules.any (applies method' path') = true := by
  induction rules generalizing used with
  | nil => cases h
  | cons r rs ih =>
      simp only [useFirst] at h
      split at h
      next =>
          cases h
          rw [List.any_cons, Bool.or_eq_true] at happlies ⊢
          exact happlies.imp applies_of_use id
      next =>
          obtain ⟨⟨e', used'⟩, hrest, heq⟩ := Option.map_eq_some_iff.mp h
          cases heq
          rw [List.any_cons, Bool.or_eq_true] at happlies ⊢
          exact happlies.imp id (ih hrest)

end FailRule

namespace Memory

variable {α : Type}

theorem isSome_refusal? (m : Memory) (method path : String) :
    (m.refusal? method path).isSome = m.refuses method path := by
  simp only [refusal?, Option.isSome_map]
  cases h : m.refuses method path with
  | false => rw [FailRule.useFirst_eq_none.mpr h]; rfl
  | true =>
      cases hu : FailRule.useFirst method path m.rules with
      | some used => rfl
      | none => rw [refuses, FailRule.useFirst_eq_none.mp hu] at h; cases h

/-! ## Answers -/

/-- What is kept besides the traffic: what reading calls are answered from. -/
structure SameData (m m' : Memory) : Prop where
  rows : m'.rows = m.rows
  counts : m'.counts = m.counts
  schemas : m'.schemas = m.schemas
  documents : m'.documents = m.documents

/-- What an answer cannot touch: the notes and the calls held back. -/
structure SameTraffic (m m' : Memory) : Prop where
  log : m'.log = m.log
  holds : m'.holds = m.holds
  issued : m'.issued = m.issued
  held : m'.held = m.held

theorem SameData.refl (m : Memory) : SameData m m := ⟨rfl, rfl, rfl, rfl⟩

theorem SameTraffic.refl (m : Memory) : SameTraffic m m := ⟨rfl, rfl, rfl, rfl⟩

theorem sameTraffic_changeRows (m : Memory) (path : String) (f : List Item → List Item) :
    SameTraffic m (m.changeRows path f) ∧ (m.changeRows path f).rules = m.rules := by
  simp only [changeRows]
  cases m.rows.get? path with
  | none => exact ⟨SameTraffic.refl m, rfl⟩
  | some rows => exact ⟨⟨rfl, rfl, rfl, rfl⟩, rfl⟩

theorem get?_changeRows (m : Memory) (path : String) (f : List Item → List Item) (path' : String) :
    (m.changeRows path f).rows.get? path'
      = if path' = path then (m.rows.get? path').map f else m.rows.get? path' := by
  by_cases he : path' = path
  · subst he
    rw [if_pos rfl]
    simp only [changeRows]
    cases h : m.rows.get? path' with
    | none => exact h
    | some rows => exact (Dict.get?_insert ..).trans (if_pos rfl)
  · rw [if_neg he]
    simp only [changeRows]
    cases m.rows.get? path with
    | none => rfl
    | some rows => exact (Dict.get?_insert ..).trans (if_neg he)

theorem sameTraffic_serve (m : Memory) (c : Call α) :
    SameTraffic m (m.serve c).2 ∧ (m.serve c).2.rules = m.rules := by
  cases c with
  | list e params => exact ⟨SameTraffic.refl m, rfl⟩
  | read k id =>
      simp only [serve]
      split <;> exact ⟨SameTraffic.refl m, rfl⟩
  | schema k => exact ⟨SameTraffic.refl m, rfl⟩
  | create k body => exact ⟨SameTraffic.refl m, rfl⟩
  | update k id body => exact ⟨SameTraffic.refl m, rfl⟩
  | destroy k id => exact sameTraffic_changeRows m _ _
  | associate e request =>
      simp only [serve]
      split
      · exact sameTraffic_changeRows m _ _
      · exact ⟨SameTraffic.refl m, rfl⟩
  | fetch e params =>
      simp only [serve]
      split <;> exact ⟨SameTraffic.refl m, rfl⟩

/-- An answer is the failure of a rule that is used, or the call is served. -/
theorem answer_cases (m : Memory) (c : Call α) :
    (∃ e rules, m.refuses c.method c.endpoint.path = true ∧
        m.answer c = (.error e, { m with rules })) ∨
      (m.refuses c.method c.endpoint.path = false ∧ m.answer c = m.serve c) := by
  simp only [answer]
  cases h : FailRule.useFirst c.method c.endpoint.path m.rules with
  | none => exact .inr ⟨FailRule.useFirst_eq_none.mp h, rfl⟩
  | some used =>
      have hrefuses : m.refuses c.method c.endpoint.path = true := by
        cases hany : m.refuses c.method c.endpoint.path with
        | true => rfl
        | false => rw [FailRule.useFirst_eq_none.mpr hany] at h; cases h
      exact .inl ⟨used.1, used.2, hrefuses, rfl⟩

theorem sameTraffic_answer (m : Memory) (c : Call α) : SameTraffic m (m.answer c).2 := by
  rcases m.answer_cases c with ⟨e, rules, -, h⟩ | ⟨-, h⟩
  · rw [h]
    exact ⟨rfl, rfl, rfl, rfl⟩
  · rw [h]
    exact (sameTraffic_serve m c).1

theorem refuses_of_answer {m : Memory} {c : Call α} {method path : String}
    (h : (m.answer c).2.refuses method path = true) : m.refuses method path = true := by
  cases hused : FailRule.useFirst c.method c.endpoint.path m.rules with
  | none =>
      have hanswer : m.answer c = m.serve c := by simp only [answer, hused]
      rw [hanswer] at h
      simp only [refuses] at h ⊢
      rwa [(sameTraffic_serve m c).2] at h
  | some used =>
      have hanswer : m.answer c = (.error used.1, { m with rules := used.2 }) := by
        simp only [answer, hused]
      rw [hanswer] at h
      exact FailRule.any_applies_of_useFirst hused h

/-! ## Patience -/

/-- The sum of the numbers in a table. -/
def total (es : List (String × Nat)) : Nat := es.foldr (fun e n => e.2 + n) 0

theorem patience_eq (m : Memory) : m.patience = m.held.length + total m.holds.entries := rfl

theorem total_insert {es : List (String × Nat)} (hes : Entries.Ascending es) {k : String} {v : Nat}
    (h : Entries.get? k es = some v) (w : Nat) :
    total (Entries.insert k w es) + v = total es + w := by
  induction es with
  | nil => cases h
  | cons e es ih =>
      obtain ⟨hlt, htail⟩ := List.pairwise_cons.mp hes
      rw [Entries.get?_cons] at h
      rw [Entries.insert]
      split
      next hk =>
          -- a key in front of all others would not have been found
          have hne : k ≠ e.1 := fun he => String.lt_irrefl k (he.symm ▸ hk)
          rw [if_neg hne] at h
          have hnone : Entries.get? k es = none :=
            Entries.get?_eq_none_of_lt fun f hf => String.lt_trans hk (hlt f hf)
          rw [hnone] at h
          cases h
      next =>
          split
          next he =>
              rw [if_pos he] at h
              cases h
              show w + total es + e.2 = e.2 + total es + w
              omega
          next hne =>
              rw [if_neg hne] at h
              have := ih htail h
              show e.2 + total (Entries.insert k w es) + v = e.2 + total es + w
              omega

theorem patience_hold {m : Memory} {method : String} (h : 0 < m.holdsLeft method) :
    (m.hold method).2.patience = m.patience := by
  obtain ⟨left, hleft⟩ : ∃ left, m.holds.get? method = some left := by
    simp only [holdsLeft] at h
    cases hget : m.holds.get? method with
    | none => rw [hget] at h; exact absurd h (by decide)
    | some left => exact ⟨left, rfl⟩
  have hval : m.holdsLeft method = left := by
    simp only [holdsLeft]
    rw [hleft]
    rfl
  have hsum := total_insert m.holds.ascending hleft (left - 1)
  show (m.held ++ [m.issued]).length
    + total (Entries.insert method (m.holdsLeft method - 1) m.holds.entries) = _
  rw [patience_eq, hval, List.length_append]
  show m.held.length + 1 + _ = _
  omega

theorem patience_congr {m m' : Memory} (h : SameTraffic m m') : m'.patience = m.patience := by
  rw [patience_eq, patience_eq, h.held, h.holds]

theorem patience_note (m : Memory) (r : CallRecord) : (m.note r).patience = m.patience := rfl

/-- A release takes the call held longest off the others, and changes nothing else. -/
theorem release?_eq_some {m m' : Memory} (h : m.release? = some m') :
    ∃ ticket held, m.held = ticket :: held ∧ m' = { m with held } := by
  simp only [release?] at h
  cases hheld : m.held with
  | nil => simp [hheld] at h
  | cons ticket held =>
      simp only [hheld, Option.some.injEq] at h
      exact ⟨ticket, held, rfl, h.symm⟩

theorem release?_eq_none {m : Memory} (h : m.release? = none) : m.held = [] := by
  simp only [release?] at h
  cases hheld : m.held with
  | nil => rfl
  | cons ticket held => simp [hheld] at h

theorem patience_release? {m m' : Memory} (h : m.release? = some m') :
    m'.patience + 1 = m.patience := by
  obtain ⟨ticket, held, hheld, rfl⟩ := release?_eq_some h
  rw [patience_eq, patience_eq, hheld]
  show held.length + total m.holds.entries + 1 = held.length + 1 + total m.holds.entries
  omega

end Memory

end AdminConsole
