/-
# `Proofs.Query.Canonical` — params that survive being written and read

Writing leaves out what equals a default and forgets which scalars were
integers; reading puts the defaults back and reads integer fields again.  Params
are *canonical* when nothing is lost on the way: every value is a row of
scalars in its one form, each scalar reads as itself, every field has a name, and
every default is filled in.

Canonical params are what a list reads from its own text (`parse_encode`), hence
from any plain search string that it has updated (`parse_update`).  Whatever is
read is canonical (`canonical_parse`), and so are the defaults of every kind of
resource (`Kind.canonical_defaults`).

Often less is known: some defaults are not canonical, or some field has been
given a value that is read differently.  Then the other fields still come back
one by one, each from being *legible* (`Legible.get?_parse_update`).
-/
import AdminConsole.Proofs.Query.NormalForm
import AdminConsole.Proofs.Text.Integer
import AdminConsole.Screen.State

namespace AdminConsole.Query

/-- A scalar that reads as itself in a field. -/
def Scalar.Stable (scope : Scope) (field : String) (s : Scalar) : Prop :=
  scope.readScalar field (Percent.encode s.toText).toList = s

/-- A value that reads as itself in a field. -/
structure Value.Canonical (scope : Scope) (field : String) (v : Value) : Prop where
  nonempty : v.scalars ≠ []
  parts : Value.ofParts v.scalars = v
  stable : ∀ s ∈ v.scalars, s.Stable scope field

/-- Params that read as themselves. -/
structure Canonical (scope : Scope) (params : Params) : Prop where
  named : ∀ {field v}, params.get? field = some v → field ≠ ""
  value : ∀ {field v}, params.get? field = some v → v.Canonical scope field
  filled : ∀ {field}, params.get? field = none → scope.defaults.get? field = none

/-- What params hold for a field could have been read: it is canonical, or the default. -/
structure Legible (scope : Scope) (params : Params) (field : String) : Prop where
  value : ∀ {v}, params.get? field = some v →
    (field ≠ "" ∧ v.Canonical scope field) ∨ scope.defaults.get? field = some v
  filled : params.get? field = none → scope.defaults.get? field = none

variable {scope : Scope} {field : String} {part : List Char}

/-! ## Scalars -/

/-- Reading depends on what the part stands for, not on how it is written. -/
theorem readScalar_congr (scope : Scope) (field : String) {part part' : List Char}
    (h : Percent.decode part = Percent.decode part') :
    scope.readScalar field part = scope.readScalar field part' := by
  simp only [Scope.readScalar]
  rw [h]

theorem readScalar_of_isInteger (h : scope.isInteger field = true) {part : List Char} {n : Int}
    (hn : Text.int64? (Text.trimBlanks (Percent.decode part)) = some n) :
    scope.readScalar field part = .int n := by
  simp only [Scope.readScalar]
  simp only [h, if_true, hn]

theorem readScalar_text (h : scope.isInteger field = false ∨
      Text.int64? (Text.trimBlanks (Percent.decode part)) = none) :
    scope.readScalar field part = .text (String.ofList (Percent.decode part)) := by
  simp only [Scope.readScalar]
  rcases h with h | h
  · simp only [h, Bool.false_eq_true, if_false]
  · simp only [h]
    split <;> rfl

theorem Scalar.stable_text (h : scope.isInteger field = false) (text : String) :
    (Scalar.text text).Stable scope field := by
  show scope.readScalar field (Percent.encode text).toList = _
  rw [readScalar_text (.inl h), Percent.decode_encode, String.ofList_toList]

theorem Scalar.stable_int (h : scope.isInteger field = true) {n : Int} (hn : Text.IsInt64 n) :
    (Scalar.int n).Stable scope field := by
  apply readScalar_of_isInteger h
  show Text.int64? (Text.trimBlanks (Percent.decode (Percent.encode (toString n)).toList)) = _
  rw [Percent.decode_encode, Text.trimBlanks_toString, Text.int64?_toString hn]

theorem Scalar.isInt64_of_stable {n : Int} (h : (Scalar.int n).Stable scope field) :
    Text.IsInt64 n := by
  simp only [Stable, readScalar_encode, Scope.normalScalar] at h
  split at h
  next =>
      split at h
      next k hread =>
          cases h
          exact Text.isInt64_of_int64? hread
      next => cases h
  next => cases h

/-- What was read reads as itself: integers as their digits, texts as they are. -/
theorem Scalar.stable_readScalar (scope : Scope) (field : String) (part : List Char) :
    (scope.readScalar field part).Stable scope field := by
  have text : scope.readScalar field part = .text (String.ofList (Percent.decode part)) →
      (scope.readScalar field part).Stable scope field := by
    intro hread
    have hsame : Percent.decode (Percent.encode (String.ofList (Percent.decode part))).toList
        = Percent.decode part := by
      rw [Percent.decode_encode, String.toList_ofList]
    rw [hread]
    exact (readScalar_congr scope field hsame).trans hread
  cases hi : scope.isInteger field with
  | false => exact text (readScalar_text (.inl hi))
  | true =>
      cases hn : Text.int64? (Text.trimBlanks (Percent.decode part)) with
      | none => exact text (readScalar_text (.inr hn))
      | some n =>
          rw [readScalar_of_isInteger hi hn]
          exact stable_int hi (Text.isInt64_of_int64? hn)

/-! ## Values -/

namespace Value

variable {v w : Value}

theorem canonical_ofParts {ss : List Scalar} (hne : ss ≠ []) (h : ∀ s ∈ ss, s.Stable scope field) :
    (ofParts ss).Canonical scope field where
  nonempty := by rwa [scalars_ofParts]
  parts := by rw [scalars_ofParts]
  stable := by rwa [scalars_ofParts]

theorem canonical_one {s : Scalar} (h : s.Stable scope field) : (one s).Canonical scope field :=
  canonical_ofParts (List.cons_ne_nil s []) fun _ hs => List.mem_singleton.mp hs ▸ h

theorem normal_eq_self (h : v.Canonical scope field) : scope.normal field v = v := by
  have hsame : ∀ s ∈ v.scalars, scope.normalScalar field s = s := by
    intro s hs
    rw [← readScalar_encode]
    exact h.stable s hs
  simp only [Scope.normal]
  rw [List.map_congr_left hsame, List.map_id', h.parts]

theorem encode_injective (hv : v.Canonical scope field) (hw : w.Canonical scope field)
    (h : v.encode = w.encode) : v = w := by
  rw [← normal_eq_self hv, ← readValue_encode hv.nonempty, h, readValue_encode hw.nonempty,
    normal_eq_self hw]

end Value

/-! ## Params -/

namespace Canonical

variable {params : Params} {v : Value}

theorem insert (h : Canonical scope params) (hf : field ≠ "") (hv : v.Canonical scope field) :
    Canonical scope (params.insert field v) where
  named := by
    intro f w hw
    rw [Dict.get?_insert] at hw
    split at hw
    next he => exact he ▸ hf
    next => exact h.named hw
  value := by
    intro f w hw
    rw [Dict.get?_insert] at hw
    split at hw
    next he =>
        cases hw
        exact he ▸ hv
    next => exact h.value hw
  filled := by
    intro f hnone
    rw [Dict.get?_insert] at hnone
    split at hnone
    · cases hnone
    · exact h.filled hnone

theorem erase (h : Canonical scope params) (hd : scope.defaults.get? field = none) :
    Canonical scope (params.erase field) where
  named := by
    intro f w hw
    rw [Dict.get?_erase] at hw
    split at hw
    · cases hw
    · exact h.named hw
  value := by
    intro f w hw
    rw [Dict.get?_erase] at hw
    split at hw
    · cases hw
    · exact h.value hw
  filled := by
    intro f hnone
    rw [Dict.get?_erase] at hnone
    split at hnone
    next he => exact he ▸ hd
    next => exact h.filled hnone

end Canonical

/-! ## Reading gives canonical params -/

theorem Scope.ne_empty_of_field? {p : Piece} (h : scope.field? p = some field) : field ≠ "" := by
  simp only [Scope.field?, Piece.key?, Key.ofChars?] at h
  cases hs : Text.splitFirst '.' (Percent.decode p.1) with
  | none => simp [hs] at h
  | some parts =>
      simp only [hs] at h
      split at h
      next k hk =>
          split at hk
          · cases hk
          next hne =>
              cases hk
              split at h
              · cases h
                intro he
                have : parts.2 = [] := by simpa using congrArg String.toList he
                simp [this] at hne
              · cases h
      next => cases h

theorem stable_of_mem_said {ps : List Piece} {s : Scalar} (h : s ∈ scope.said field ps) :
    s.Stable scope field ∧ field ≠ "" := by
  obtain ⟨p, -, hs⟩ := List.mem_flatMap.mp h
  simp only [Scope.saidIn] at hs
  split at hs
  next hp =>
      obtain ⟨part, -, rfl⟩ := List.mem_map.mp hs
      exact ⟨Scalar.stable_readScalar scope field part, Scope.ne_empty_of_field? hp⟩
  next => exact absurd hs List.not_mem_nil

theorem Legible.canonical {params : Params} {v : Value} (h : Legible scope params field)
    (default : ∀ {d}, scope.defaults.get? field = some d → d.Canonical scope field)
    (hv : params.get? field = some v) : v.Canonical scope field :=
  (h.value hv).elim (fun hread => hread.2) default

/-- A field is legible with scalars that read as themselves, and with its default in their place. -/
theorem Legible.of_scalars {params : Params} {ss : List Scalar}
    (h : params.get? field = (Value.ofScalars? ss).or (scope.defaults.get? field))
    (stable : ∀ s ∈ ss, s.Stable scope field ∧ field ≠ "") : Legible scope params field where
  value := by
    intro v hv
    rw [h] at hv
    cases ss with
    | nil => exact .inr hv
    | cons s ss =>
        cases hv
        exact .inl ⟨(stable s List.mem_cons_self).2,
          Value.canonical_ofParts (List.cons_ne_nil s ss) fun t ht => (stable t ht).1⟩
  filled hnone := by
    rw [h] at hnone
    exact (Option.or_eq_none_iff.mp hnone).2

theorem legible_parse (scope : Scope) (search field : String) :
    Legible scope (parse scope search) field :=
  .of_scalars (get?_parse scope search field) fun _ => stable_of_mem_said

theorem canonical_parse (defaults : Canonical scope scope.defaults) (search : String) :
    Canonical scope (parse scope search) where
  named hv := ((legible_parse scope search _).value hv).elim (fun h => h.1) fun h =>
    defaults.named h
  value hv := (legible_parse scope search _).canonical defaults.value hv
  filled := (legible_parse scope search _).filled

/-! ## What is legible is read back -/

/-- A value that is written comes back if it is canonical, whether it has to be written or equals the
default by its text. -/
theorem get?_parse_encode_self {params : Params} {v : Value}
    (defaults : ∀ {d}, scope.defaults.get? field = some d → d.Canonical scope field)
    (name : field ≠ "") (h : params.get? field = some v) (hv : v.Canonical scope field) :
    (parse scope (encode scope params)).get? field = some v := by
  rw [get?_parse_encode, if_neg name, h]
  cases hdefault : scope.isDefault field v with
  | false =>
      have hkept : (some v).filter (fun v => !v.isEmpty && !scope.isDefault field v) = some v := by
        simp [Value.isEmpty_eq_false_iff.mpr hv.nonempty, hdefault]
      rw [hkept, Option.map_some, Value.normal_eq_self hv]
      rfl
  | true =>
      have hleft : (some v).filter (fun v => !v.isEmpty && !scope.isDefault field v) = none := by
        simp [hdefault]
      rw [hleft]
      show scope.defaults.get? field = some v
      simp only [Scope.isDefault] at hdefault
      cases hd : scope.defaults.get? field with
      | none => simp [hd] at hdefault
      | some d =>
          simp only [hd, beq_iff_eq] at hdefault
          rw [Value.encode_injective (defaults hd) hv hdefault]

namespace Legible

variable {params params' : Params} {v : Value}

theorem congr (h : Legible scope params field) (same : params'.get? field = params.get? field) :
    Legible scope params' field where
  value hv := h.value (same.symm.trans hv)
  filled hnone := h.filled (same.symm.trans hnone)

theorem of_canonical (name : field ≠ "") (h : params.get? field = some v)
    (hv : v.Canonical scope field) : Legible scope params field where
  value hw := by
    cases h.symm.trans hw
    exact .inl ⟨name, hv⟩
  filled hnone := by
    rw [h] at hnone
    cases hnone

/-- What is legible is what its text says, if the default is canonical. -/
theorem get?_parse_encode (h : Legible scope params field)
    (default : ∀ {d}, scope.defaults.get? field = some d → d.Canonical scope field) :
    (parse scope (encode scope params)).get? field = params.get? field := by
  cases hv : params.get? field with
  | none =>
      rw [Query.get?_parse_encode, hv]
      show (if field = "" then none else none).or _ = _
      rw [ite_self, h.filled hv]
      rfl
  | some v =>
      rcases h.value hv with ⟨hname, hcanon⟩ | hd
      · exact get?_parse_encode_self default hname hv hcanon
      · -- the default is not written, so it is read where nothing is said
        have hdefault : scope.isDefault field v = true := by
          simp only [Scope.isDefault]
          rw [hd]
          exact beq_self_eq_true _
        have hleft : (some v).filter (fun v => !v.isEmpty && !scope.isDefault field v) = none := by
          simp [hdefault]
        rw [Query.get?_parse_encode, hv, hd, hleft]
        show (if field = "" then none else none).or (some v) = _
        rw [ite_self]
        rfl

theorem get?_parse_update {search : String} (h : Legible scope params field)
    (default : ∀ {d}, scope.defaults.get? field = some d → d.Canonical scope field)
    (front : scope.FrontUnmarked search) :
    (parse scope (update scope search params)).get? field = params.get? field := by
  rw [parse_congr (own_update_of_front front params), h.get?_parse_encode default]

end Legible

theorem Canonical.legible {params : Params} (h : Canonical scope params) (field : String) :
    Legible scope params field where
  value hv := .inl ⟨h.named hv, h.value hv⟩
  filled := h.filled

/-- Canonical params are what their text says. -/
theorem parse_encode {params : Params} (defaults : Canonical scope scope.defaults)
    (h : Canonical scope params) : parse scope (encode scope params) = params :=
  Dict.ext_get? fun field => (h.legible field).get?_parse_encode defaults.value

theorem parse_update_of_front {search : String} {params : Params}
    (defaults : Canonical scope scope.defaults) (front : scope.FrontUnmarked search)
    (h : Canonical scope params) : parse scope (update scope search params) = params :=
  Dict.ext_get? fun field => (h.legible field).get?_parse_update defaults.value front

theorem parse_update {search : String} {params : Params}
    (defaults : Canonical scope scope.defaults) (plain : Plain search)
    (h : Canonical scope params) : parse scope (update scope search params) = params :=
  parse_update_of_front defaults (frontUnmarked_of_plain scope plain) h

end AdminConsole.Query

/-! ## The scopes of resources -/

namespace AdminConsole.Kind

open Query

theorem get?_defaults (k : Kind) (pageSize : Nat) (field : String) :
    (k.defaults pageSize).get? field =
      if field = orderField then some (.one (.text k.defaultOrder))
      else if field = pageSizeField then some (.one (.int pageSize))
      else if field = pageField then some (.one (.int 1))
      else none := by
  simp only [defaults]
  rw [Dict.get?_ofList]
  rfl

theorem isInteger_scope (k : Kind) (pageSize : Nat) (field : String) :
    (k.scope pageSize).isInteger field = (field == pageField || field == pageSizeField) := by
  show List.contains [pageField, pageSizeField] field = _
  rw [List.contains_cons, List.contains_cons, List.contains_nil, Bool.or_false]

theorem canonical_defaults (k : Kind) {pageSize : Nat} (h : Text.IsInt64 pageSize) :
    Canonical (k.scope pageSize) (k.scope pageSize).defaults := by
  have all : ∀ {f v}, (k.defaults pageSize).get? f = some v →
      f ≠ "" ∧ v.Canonical (k.scope pageSize) f := by
    intro f v hv
    rw [get?_defaults] at hv
    split at hv
    next he =>
        cases hv
        subst he
        exact ⟨by decide, Value.canonical_one (Scalar.stable_text (isInteger_scope k pageSize _) _)⟩
    next =>
        split at hv
        next he =>
            cases hv
            subst he
            exact ⟨by decide,
              Value.canonical_one (Scalar.stable_int (isInteger_scope k pageSize _) h)⟩
        next =>
            split at hv
            next he =>
                cases hv
                subst he
                exact ⟨by decide, Value.canonical_one
                  (Scalar.stable_int (isInteger_scope k pageSize _) (by decide))⟩
            next => cases hv
  exact ⟨fun hv => (all hv).1, fun hv => (all hv).2, id⟩

end AdminConsole.Kind
