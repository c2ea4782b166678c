/-
# `Proofs.Query.NormalForm` — what comes back of params that are written and read

A written scalar keeps its text; whether it was an integer is forgotten, and
reading decides it again from the field and the text alone.  A value so comes
back in its *normal form*: the same scalars in the same order, integers exactly
where an integer field has a text that spells one between blanks, and one scalar
standing for itself.

Params come back field by field (`get?_parse_encode`).  A value that has to be
written and has a named field to be written for returns in normal form, and every
other field falls back to its default.  No precondition is needed: the keys of
distinct fields never meet, whatever characters are in them.
-/
import AdminConsole.Proofs.Query.Writing

namespace AdminConsole.Query

/-- A scalar as a field has it: an integer if the field has integers and the text spells one between
blanks, else a text. -/
def Scope.normalScalar (scope : Scope) (field : String) (s : Scalar) : Scalar :=
  if scope.isInteger field then
    match Text.int64? (Text.trimBlanks s.toText.toList) with
    | some n => .int n
    | none => .text s.toText
  else .text s.toText

/-- The normal form of a value in a field. -/
def Scope.normal (scope : Scope) (field : String) (v : Value) : Value :=
  Value.ofParts (v.scalars.map (scope.normalScalar field))

variable {scope : Scope} {field : String}

/-! ## Values -/

theorem readScalar_encode (scope : Scope) (field : String) (s : Scalar) :
    scope.readScalar field (Percent.encode s.toText).toList = scope.normalScalar field s := by
  cases integers : scope.isInteger field with
  | false =>
      simp only [Scope.readScalar, Scope.normalScalar, integers, Percent.decode_encode,
        String.ofList_toList, Bool.false_eq_true, if_false]
  | true =>
      cases spelt : Text.int64? (Text.trimBlanks s.toText.toList) with
      | none =>
          simp only [Scope.readScalar, Scope.normalScalar, integers, Percent.decode_encode,
            String.ofList_toList, spelt, if_true]
      | some n =>
          simp only [Scope.readScalar, Scope.normalScalar, integers, Percent.decode_encode, spelt,
            if_true]

namespace Value

variable {v : Value}

theorem isEmpty_eq_false_iff : v.isEmpty = false ↔ v.scalars ≠ [] := by
  cases v with
  | one s => simp [isEmpty, scalars]
  | many ss => exact List.isEmpty_eq_false_iff

theorem toList_encode (v : Value) : v.encode.toList
    = Text.join [','] (v.scalars.map fun s => (Percent.encode s.toText).toList) := by
  simp only [encode]
  rw [Text.toList_joinText, List.map_map]
  rfl

theorem map_readScalar_encode (h : v.scalars ≠ []) :
    (Text.splitAll ',' v.encode.toList).map (scope.readScalar field)
      = v.scalars.map (scope.normalScalar field) := by
  have hne : v.scalars.map (fun s => (Percent.encode s.toText).toList) ≠ [] := by
    simp [h]
  have hcomma : ∀ p ∈ v.scalars.map (fun s => (Percent.encode s.toText).toList), ',' ∉ p := by
    intro p hp
    obtain ⟨s, -, hs⟩ := List.mem_map.mp hp
    rw [← hs]
    exact Percent.not_mem_encode ',' rfl (by decide) s.toText
  have hread : ∀ s ∈ v.scalars,
      (scope.readScalar field ∘ fun s => (Percent.encode s.toText).toList) s
        = scope.normalScalar field s := by
    intro s _
    rw [Function.comp_apply]
    exact readScalar_encode scope field s
  rw [toList_encode, Text.splitAll_join hne hcomma, List.map_map, List.map_congr_left hread]

theorem readValue_encode (h : v.scalars ≠ []) :
    scope.readValue field v.encode.toList = scope.normal field v := by
  simp only [Scope.readValue, Scope.normal]
  rw [map_readScalar_encode h]

end Value

/-! ## Params -/

theorem saidIn_written {f : String} {v : Value} (hv : v.scalars ≠ []) :
    scope.saidIn field (scope.written f v)
      = if field = f ∧ field ≠ "" then v.scalars.map (scope.normalScalar field) else [] := by
  have howner := Scope.field?_written scope scope f v
  rw [if_pos rfl] at howner
  by_cases h : field = f ∧ field ≠ ""
  · obtain ⟨rfl, hname⟩ := h
    rw [if_neg hname] at howner
    rw [Scope.saidIn_of_field? howner, if_pos ⟨rfl, hname⟩, Scope.snd_written,
      Value.map_readScalar_encode hv]
  · rw [if_neg h]
    apply Scope.saidIn_of_ne
    rw [howner]
    split
    · exact fun he => by cases he
    next hname =>
        intro he
        cases he
        exact h ⟨rfl, hname⟩

theorem said_map_written {es : List (String × Value)} (hes : Entries.Ascending es)
    (h : ∀ e ∈ es, e.2.scalars ≠ []) (hname : field ≠ "") :
    scope.said field (es.map fun e => scope.written e.1 e.2)
      = ((Entries.get? field es).map fun v => v.scalars.map (scope.normalScalar field)).getD [] := by
  induction es with
  | nil => rfl
  | cons e es ih =>
      obtain ⟨hlt, htail⟩ := List.pairwise_cons.mp hes
      obtain ⟨hv, hrest⟩ := List.forall_mem_cons.mp h
      have hfirst : scope.said field ((e :: es).map fun e => scope.written e.1 e.2)
          = scope.saidIn field (scope.written e.1 e.2)
            ++ scope.said field (es.map fun e => scope.written e.1 e.2) := rfl
      rw [hfirst, saidIn_written hv, ih htail hrest, Entries.get?_cons]
      by_cases he : field = e.1
      · rw [if_pos ⟨he, hname⟩, if_pos he, he, Entries.get?_eq_none_of_lt hlt]
        exact List.append_nil _
      · rw [if_neg fun hand => he hand.1, if_neg he]
        rfl

theorem said_map_written_empty (es : List (String × Value)) :
    scope.said "" (es.map fun e => scope.written e.1 e.2) = [] := by
  apply List.flatMap_eq_nil_iff.mpr
  intro p hp
  obtain ⟨e, -, rfl⟩ := List.mem_map.mp hp
  apply Scope.saidIn_of_ne
  rw [Scope.field?_written, if_pos rfl]
  split
  · exact fun he => by cases he
  next hname => exact fun he => hname (Option.some.inj he)

/-- What comes back for a field: the normal form of a value that has to be written, else the
default. -/
theorem get?_parse_encode (scope : Scope) (params : Params) (field : String) :
    (parse scope (encode scope params)).get? field =
      (if field = "" then none
        else ((params.get? field).filter fun v => !v.isEmpty && !scope.isDefault field v).map
          (scope.normal field)).or (scope.defaults.get? field) := by
  have hnonempty : ∀ e ∈ scope.deviations params, e.2.scalars ≠ [] := by
    intro e he
    have hkept := (List.mem_filter.mp he).2
    simp only [Bool.and_eq_true, Bool.not_eq_true'] at hkept
    exact Value.isEmpty_eq_false_iff.mp hkept.1
  rw [get?_parse, pieces_encode]
  by_cases hname : field = ""
  · subst hname
    rw [if_pos rfl]
    simp only [Scope.writtenAll]
    rw [said_map_written_empty]
    rfl
  · have hsaid : scope.said field (scope.writtenAll params) = _ :=
      said_map_written (params.ascending.filter _) hnonempty hname
    rw [if_neg hname, hsaid, ← get?_deviations]
    cases hv : Entries.get? field (scope.deviations params) with
    | none => rfl
    | some v =>
        have hne : v.scalars.map (scope.normalScalar field) ≠ [] := by
          have := hnonempty (field, v) (Entries.mem_of_get? hv)
          simpa using this
        show (Value.ofScalars? (v.scalars.map (scope.normalScalar field))).or _ = _
        rw [Value.ofScalars?_of_ne_nil hne]
        rfl

end AdminConsole.Query
