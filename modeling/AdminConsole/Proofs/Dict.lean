/-
# `Proofs.Dict` — what is found under a key

One equation for each operation on tables, read through `get?`.  Since the keys
ascend, a table is determined by what is found in it (`ext_get?`), so equality
of tables is proved key by key everywhere else.

Runs keep plain lists of things that are told apart by a key; the first section
is about those.
-/
import AdminConsole.Dict

namespace AdminConsole

/-! ## Lists told apart by a key -/

theorem find?_filter_key {α κ : Type} [DecidableEq κ] (key : α → κ) (l : List α) (k k' : κ) :
    (l.filter fun a => key a != k').find? (fun a => key a == k) =
      if k = k' then none else l.find? fun a => key a == k := by
  by_cases h : k = k'
  · subst h
    rw [if_pos rfl, List.find?_eq_none]
    intro a ha
    have hne := (List.mem_filter.mp ha).2
    simpa using hne
  · rw [if_neg h, List.find?_filter]
    congr 1
    funext a
    by_cases ha : key a = k
    · simp [ha, h]
    · simp [ha]

/-! ## Lists of entries -/

namespace Entries

variable {α : Type} {es fs : List (String × α)}

@[simp] theorem get?_nil (k : String) : get? k ([] : List (String × α)) = none := rfl

theorem get?_cons (k : String) (e : String × α) (es : List (String × α)) :
    get? k (e :: es) = if k = e.1 then some e.2 else get? k es := rfl

theorem get?_insert (k k' : String) (a : α) (es : List (String × α)) :
    get? k (insert k' a es) = if k = k' then some a else get? k es := by
  induction es with
  | nil => rfl
  | cons e es ih =>
      rw [insert]
      split
      · rfl
      · split
        next he =>
            rw [get?_cons, get?_cons, ← he]
            split <;> rfl
        next hne =>
            rw [get?_cons, ih, get?_cons]
            by_cases hk : k = e.1
            · rw [if_pos hk, if_pos hk, if_neg fun h => hne (h.symm.trans hk)]
            · rw [if_neg hk, if_neg hk]

theorem mem_of_get? {k : String} {a : α} (h : get? k es = some a) : (k, a) ∈ es := by
  induction es with
  | nil => exact absurd h (by simp)
  | cons e es ih =>
      rw [get?_cons] at h
      split at h
      next he =>
          cases h
          exact he ▸ List.mem_cons_self
      next => exact List.mem_cons_of_mem e (ih h)

theorem get?_of_mem (hes : Ascending es) {k : String} {a : α} (h : (k, a) ∈ es) :
    get? k es = some a := by
  induction es with
  | nil => exact absurd h List.not_mem_nil
  | cons e es ih =>
      obtain ⟨hlt, htail⟩ := List.pairwise_cons.mp hes
      rw [get?_cons]
      rcases List.mem_cons.mp h with rfl | h
      · exact if_pos rfl
      · have hne : k ≠ e.1 := fun he => String.lt_irrefl k (by
          have := hlt _ h
          rwa [← he] at this)
        rw [if_neg hne]
        exact ih htail h

theorem get?_eq_some_iff (hes : Ascending es) {k : String} {a : α} :
    get? k es = some a ↔ (k, a) ∈ es :=
  ⟨mem_of_get?, get?_of_mem hes⟩

theorem get?_eq_none_of_lt {k : String} (h : ∀ e ∈ es, k < e.1) : get? k es = none := by
  cases hg : get? k es with
  | none => rfl
  | some a => exact absurd (h _ (mem_of_get? hg)) (String.lt_irrefl k)

/-- Ascending entries are determined by what is found among them. -/
theorem ext_get? (hes : Ascending es) (hfs : Ascending fs)
    (h : ∀ k, get? k es = get? k fs) : es = fs := by
  induction es generalizing fs with
  | nil =>
      cases fs with
      | nil => rfl
      | cons f fs =>
          have hf := h f.1
          rw [get?_cons, if_pos rfl] at hf
          exact absurd hf (by simp)
  | cons e es ih =>
      have he : get? e.1 fs = some e.2 := by rw [← h, get?_cons, if_pos rfl]
      cases fs with
      | nil => exact absurd he (by simp)
      | cons f fs =>
          have hf : get? f.1 (e :: es) = some f.2 := by rw [h, get?_cons, if_pos rfl]
          obtain ⟨hlte, htaile⟩ := List.pairwise_cons.mp hes
          obtain ⟨hltf, htailf⟩ := List.pairwise_cons.mp hfs
          -- each head occurs in the other list, so neither key can be the smaller one
          have hef : e = f := by
            rcases List.mem_cons.mp (mem_of_get? he) with heq | hin
            · exact heq
            · rcases List.mem_cons.mp (mem_of_get? hf) with heq | hin'
              · exact heq.symm
              · exact absurd (hltf _ hin) (String.lt_asymm (hlte _ hin'))
          subst hef
          have htail : ∀ k, get? k es = get? k fs := by
            intro k
            by_cases hk : k = e.1
            · rw [hk, get?_eq_none_of_lt hlte, get?_eq_none_of_lt hltf]
            · have := h k
              rwa [get?_cons, get?_cons, if_neg hk, if_neg hk] at this
          rw [ih htaile htailf htail]

theorem get?_filter (hes : Ascending es) (p : String × α → Bool) (k : String) :
    get? k (es.filter p) = (get? k es).filter fun a => p (k, a) := by
  have hf : Ascending (es.filter p) := hes.filter p
  apply Option.ext
  intro a
  rw [get?_eq_some_iff hf, List.mem_filter, Option.filter_eq_some_iff, get?_eq_some_iff hes]

theorem ascending_map {β : Type} (hes : Ascending es) (g : α → β) :
    Ascending (es.map fun e => (e.1, g e.2)) :=
  List.pairwise_map.mpr hes

theorem get?_map {β : Type} (g : α → β) (k : String) (es : List (String × α)) :
    get? k (es.map fun e => (e.1, g e.2)) = (get? k es).map g := by
  induction es with
  | nil => rfl
  | cons e es ih =>
      rw [List.map_cons, get?_cons, get?_cons, ih]
      split <;> rfl

theorem ascending_filterMap {β : Type} (hes : Ascending es) (g : String → α → Option β) :
    Ascending (es.filterMap fun e => (g e.1 e.2).map fun b => (e.1, b)) := by
  refine hes.filterMap _ ?_
  rintro a a' hlt _ hb _ hb'
  obtain ⟨_, -, rfl⟩ := Option.map_eq_some_iff.mp hb
  obtain ⟨_, -, rfl⟩ := Option.map_eq_some_iff.mp hb'
  exact hlt

theorem get?_filterMap {β : Type} (hes : Ascending es) (g : String → α → Option β) (k : String) :
    get? k (es.filterMap fun e => (g e.1 e.2).map fun b => (e.1, b))
      = (get? k es).bind (g k) := by
  apply Option.ext
  intro b
  rw [get?_eq_some_iff (ascending_filterMap hes g), Option.bind_eq_some_iff, List.mem_filterMap]
  constructor
  · rintro ⟨e, he, hmap⟩
    obtain ⟨b', hb', heq⟩ := Option.map_eq_some_iff.mp hmap
    cases heq
    exact ⟨e.2, get?_of_mem hes he, hb'⟩
  · rintro ⟨a, ha, hb⟩
    exact ⟨(k, a), mem_of_get? ha, by rw [hb]; rfl⟩

end Entries

/-! ## Tables -/

namespace Dict

variable {α : Type} {d d' : Dict α}

/-- Two tables in which the same is found are equal. -/
theorem ext_get? (h : ∀ k, d.get? k = d'.get? k) : d = d' := by
  cases d with
  | mk es hes =>
      cases d' with
      | mk fs hfs =>
          have := Entries.ext_get? hes hfs h
          subst this
          rfl

theorem get?_eq_some_iff {k : String} {a : α} : d.get? k = some a ↔ (k, a) ∈ d.toList :=
  Entries.get?_eq_some_iff d.ascending

@[simp] theorem get?_insert (d : Dict α) (k k' : String) (a : α) :
    (d.insert k' a).get? k = if k = k' then some a else d.get? k :=
  Entries.get?_insert k k' a d.entries

theorem get?_insert_self (d : Dict α) (k : String) (a : α) : (d.insert k a).get? k = some a := by
  rw [get?_insert, if_pos rfl]

theorem get?_insert_of_ne {k k' : String} (h : k ≠ k') (d : Dict α) (a : α) :
    (d.insert k' a).get? k = d.get? k := by
  rw [get?_insert, if_neg h]

theorem get?_filter (d : Dict α) (p : String → α → Bool) (k : String) :
    (d.filter p).get? k = (d.get? k).filter (p k) :=
  Entries.get?_filter d.ascending _ k

@[simp] theorem get?_erase (d : Dict α) (k k' : String) :
    (d.erase k').get? k = if k = k' then none else d.get? k := by
  simp only [erase]
  rw [get?_filter]
  by_cases h : k = k'
  · rw [if_pos h]
    cases d.get? k with
    | none => rfl
    | some a => simp [h]
  · rw [if_neg h]
    cases d.get? k with
    | none => rfl
    | some a => simp [h]

@[simp] theorem get?_overlay (base top : Dict α) (k : String) :
    (base.overlay top).get? k = (top.get? k).or (base.get? k) := by
  have fold : ∀ (es : List (String × α)) (d : Dict α), Entries.Ascending es →
      (es.foldl (fun d e => d.insert e.1 e.2) d).get? k = (Entries.get? k es).or (d.get? k) := by
    intro es
    induction es with
    | nil => intro _ _; rfl
    | cons e es ih =>
        intro d hes
        obtain ⟨hlt, htail⟩ := List.pairwise_cons.mp hes
        rw [List.foldl_cons, ih _ htail, get?_insert, Entries.get?_cons]
        by_cases hk : k = e.1
        · rw [if_pos hk, if_pos hk, hk, Entries.get?_eq_none_of_lt hlt]
          rfl
        · rw [if_neg hk, if_neg hk]
  exact fold top.entries base top.ascending

theorem get?_ofList (es : List (String × α)) (k : String) :
    (ofList es).get? k = Entries.get? k es.reverse := by
  have fold : ∀ es : List (String × α),
      Entries.get? k (Entries.sort es) = Entries.get? k es.reverse := by
    intro es
    rw [← List.reverse_reverse es]
    generalize es.reverse = rs
    induction rs with
    | nil => rfl
    | cons r rs ih =>
        rw [List.reverse_reverse] at ih ⊢
        simp only [Entries.sort] at ih ⊢
        rw [List.reverse_cons, List.foldl_append, List.foldl_cons, List.foldl_nil,
          Entries.get?_insert, ih, Entries.get?_cons]
  exact fold es

end Dict

end AdminConsole
