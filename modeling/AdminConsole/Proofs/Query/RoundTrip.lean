/-
# `Proofs.Query.RoundTrip` — reading undoes writing, up to normal form

A value *deviates* when it has to be written: its field has a name, it holds
something, and its text is not that of the default.  Writing and reading params
again gives each deviating value in its normal form and the default everywhere
else (`reading_undoes_writing`), for any scope and any params.

If the defaults are normal themselves, then nothing is lost of params that were
read once (`parse_encode_parse`).  A default without scalars is not normal, and it
could not be allowed here: its text is that of the empty scalar, which would be
left out for it and come back as no scalar at all.
-/
import AdminConsole.Proofs.Query.Canonical

namespace AdminConsole.Query

/-- A value that has to be written for a field, and can be. -/
structure Scope.Deviates (scope : Scope) (field : String) (v : Value) : Prop where
  named : field ≠ ""
  nonempty : v.scalars ≠ []
  differs : ∀ d, scope.defaults.get? field = some d → d.encode ≠ v.encode

/-- A value that holds something and is its own normal form. -/
structure Scope.IsNormal (scope : Scope) (field : String) (v : Value) : Prop where
  nonempty : v.scalars ≠ []
  normal : scope.normal field v = v

instance (scope : Scope) (field : String) (v : Value) : Decidable (scope.IsNormal field v) :=
  decidable_of_iff (v.scalars ≠ [] ∧ scope.normal field v = v)
    ⟨fun h => ⟨h.1, h.2⟩, fun h => ⟨h.nonempty, h.normal⟩⟩

variable {scope : Scope} {params : Params} {field : String} {v : Value}

theorem isDefault_eq_false_iff : scope.isDefault field v = false ↔
    ∀ d, scope.defaults.get? field = some d → d.encode ≠ v.encode := by
  simp only [Scope.isDefault]
  cases scope.defaults.get? field with
  | none => simp
  | some d => simp

theorem Scope.IsNormal.map_normalScalar (h : scope.IsNormal field v) :
    v.scalars.map (scope.normalScalar field) = v.scalars := by
  rw [← Value.scalars_ofParts (v.scalars.map (scope.normalScalar field))]
  exact congrArg Value.scalars h.normal

theorem canonical_of_isNormal (h : scope.IsNormal field v) : v.Canonical scope field where
  nonempty := h.nonempty
  parts := by
    have hnormal := h.normal
    simp only [Scope.normal] at hnormal
    rwa [h.map_normalScalar] at hnormal
  stable := by
    intro s hs
    have hmap : v.scalars.map (scope.normalScalar field) = v.scalars.map id := by
      rw [List.map_id, h.map_normalScalar]
    exact (readScalar_encode scope field s).trans (List.map_inj_left.mp hmap s hs)

/-! ## Field by field -/

theorem get?_parse_encode_of_deviates (h : params.get? field = some v)
    (hv : scope.Deviates field v) :
    (parse scope (encode scope params)).get? field = some (scope.normal field v) := by
  have hkept : (some v).filter (fun v => !v.isEmpty && !scope.isDefault field v) = some v := by
    simp [Value.isEmpty_eq_false_iff.mpr hv.nonempty, isDefault_eq_false_iff.mpr hv.differs]
  rw [get?_parse_encode, if_neg hv.named, h, hkept]
  rfl

theorem get?_parse_encode_of_not_deviates
    (h : ∀ v, params.get? field = some v → ¬scope.Deviates field v) :
    (parse scope (encode scope params)).get? field = scope.defaults.get? field := by
  rw [get?_parse_encode]
  by_cases hname : field = ""
  · rw [if_pos hname]
    rfl
  · have hleft : (params.get? field).filter (fun v => !v.isEmpty && !scope.isDefault field v)
        = none := by
      rw [Option.filter_eq_none_iff]
      intro v hv hkept
      simp only [Bool.and_eq_true, Bool.not_eq_true'] at hkept
      exact h v hv ⟨hname, Value.isEmpty_eq_false_iff.mp hkept.1,
        isDefault_eq_false_iff.mp hkept.2⟩
    rw [if_neg hname, hleft]
    rfl

/-! ## Whole params -/

/-- The defaults are never written. -/
theorem encode_defaults (scope : Scope) : encode scope scope.defaults = "" := by
  have hnone : scope.deviations scope.defaults = [] := by
    apply List.filter_eq_nil_iff.mpr
    intro e he
    have hdefault : scope.isDefault e.1 e.2 = true := by
      simp only [Scope.isDefault]
      rw [Dict.get?_eq_some_iff.mpr he]
      exact beq_self_eq_true _
    simp [hdefault]
  simp only [encode]
  rw [hnone]
  rfl

theorem parse_encode_parse
    (defaults : ∀ field d, scope.defaults.get? field = some d → scope.IsNormal field d)
    (search : String) : parse scope (encode scope (parse scope search)) = parse scope search :=
  Dict.ext_get? fun field => (legible_parse scope search field).get?_parse_encode fun hd =>
    canonical_of_isNormal (defaults field _ hd)

/-- **Reading undoes writing.**  Each deviating value comes back in its normal form and every other
field has its default; with normal defaults nothing is lost of params that were read, and the defaults
themselves leave no text at all. -/
theorem reading_undoes_writing (scope : Scope) (params : Params) :
    (∀ field v, params.get? field = some v → scope.Deviates field v →
      (parse scope (encode scope params)).get? field = some (scope.normal field v)) ∧
    (∀ field, (∀ v, params.get? field = some v → ¬scope.Deviates field v) →
      (parse scope (encode scope params)).get? field = scope.defaults.get? field) ∧
    ((∀ field d, scope.defaults.get? field = some d → scope.IsNormal field d) →
      ∀ search, parse scope (encode scope (parse scope search)) = parse scope search) ∧
    encode scope scope.defaults = "" := by
  refine ⟨?_, ?_, ?_, ?_⟩
  · intro field v h hv
    exact get?_parse_encode_of_deviates h hv
  · intro field h
    exact get?_parse_encode_of_not_deviates h
  · intro defaults search
    exact parse_encode_parse defaults search
  · exact encode_defaults scope

/-- A numeral between blanks in an integer field, separators in a text, an empty sequence, a nameless
field and a value with the text of its default. -/
theorem reading_undoes_writing_teams :
    let scope : Scope := ⟨"team", Dict.ofList [("page", .one (.int 1)), ("kind", .one (.text "7"))],
      [pageField], by decide⟩
    let params : Params := Dict.ofList [("page", .many [.text " +07 "]),
      ("name.x", .many [.text "a,b&", .text "?=."]), ("none", .many []), ("", .one (.int 2)),
      ("kind", .one (.int 7))]
    let back := parse scope (encode scope params)
    back.get? "page" = some (.one (.int 7)) ∧
      back.get? "name.x" = some (.many [.text "a,b&", .text "?=."]) ∧
      back.get? "none" = none ∧ back.get? "" = none ∧ back.get? "kind" = some (.one (.text "7")) ∧
      parse scope (encode scope (parse scope "?team.page=%2B3&team.page=x"))
        = parse scope "?team.page=%2B3&team.page=x" := by
  intro scope params back
  obtain ⟨hwritten, hsilent, hagain, -⟩ := reading_undoes_writing scope params
  have hpage : scope.Deviates "page" (.many [.text " +07 "]) :=
    ⟨by decide, by decide, fun d hd => by cases hd; decide +kernel⟩
  have hname : scope.Deviates "name.x" (.many [.text "a,b&", .text "?=."]) :=
    ⟨by decide, by decide, fun d hd => by cases hd⟩
  have hkind : ¬scope.Deviates "kind" (.one (.int 7)) := fun h =>
    h.differs _ rfl (by decide +kernel)
  refine ⟨hwritten "page" _ rfl hpage, hwritten "name.x" _ rfl hname, ?_, ?_, ?_, ?_⟩
  · exact hsilent "none" fun v hv h => by cases hv; exact h.nonempty rfl
  · exact hsilent "" fun v hv h => h.named rfl
  · exact hsilent "kind" fun v hv h => by cases hv; exact hkind h
  · apply hagain
    have hall : ∀ e ∈ scope.defaults.toList, scope.IsNormal e.1 e.2 := by decide +kernel
    exact fun field d hd => hall (field, d) (Dict.get?_eq_some_iff.mp hd)

end AdminConsole.Query
