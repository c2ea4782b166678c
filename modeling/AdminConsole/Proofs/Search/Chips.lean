/-
# `Proofs.Search.Chips` — filters in effect are what the location says

A list shows a chip for every filter in effect.  Among the entries of its query
these are the ones that are no controls (`filterEntries`), for the scope of a
resource has defaults for its controls only.  An entry is there if the field
occurs in the location, and it has the texts of all occurrences in their order
(`get?_parse_filter`).

Taking a text off a chip is an edit of the params.  The edit is seen in the entry
of its own field, which loses the text and goes if nothing is left
(`filterEntries_withoutFilter`); and since edits of the params are edits of the
location, so is it in the chips of the new location (`chips_mirror_location`).
-/
import AdminConsole.Proofs.Search.Edits
import AdminConsole.Proofs.Search.FilterKeys

namespace AdminConsole.Query

/-- A field of the list is among the keys of a location. -/
def Scope.Occurs (scope : Scope) (field location : String) : Prop :=
  ∃ p ∈ pieces location, scope.field? p = some field

/-- The texts that a location gives to a field: those between the commas of all its values, decoded. -/
def Scope.textsOf (scope : Scope) (field location : String) : List String :=
  ((pieces location).filter fun p => scope.field? p = some field).flatMap fun p =>
    (Text.splitAll ',' p.2).map fun part => String.ofList (Percent.decode part)

variable {scope : Scope} {field location : String}

theorem said_ne_nil_iff : scope.said field (pieces location) ≠ [] ↔ scope.Occurs field location := by
  simp only [Scope.said, Scope.Occurs, ne_eq, List.flatMap_eq_nil_iff]
  constructor
  · intro h
    apply Classical.byContradiction
    intro hnone
    exact h fun p hp => Scope.saidIn_of_ne fun hfield => hnone ⟨p, hp, hfield⟩
  · rintro ⟨p, hp, hfield⟩ h
    exact Scope.saidIn_ne_nil hfield (h p hp)

theorem map_toText_said (text : scope.isInteger field = false) :
    (scope.said field (pieces location)).map Scalar.toText = scope.textsOf field location := by
  simp only [Scope.said, Scope.textsOf]
  induction pieces location with
  | nil => rfl
  | cons p ps ih =>
      rw [List.flatMap_cons, List.map_append, ih, List.filter_cons]
      by_cases hfield : scope.field? p = some field
      · have hparts : (scope.saidIn field p).map Scalar.toText
            = (Text.splitAll ',' p.2).map fun part => String.ofList (Percent.decode part) := by
          rw [Scope.saidIn_of_field? hfield, List.map_map]
          exact List.map_congr_left fun part _ =>
            congrArg Scalar.toText (readScalar_text (.inl text))
        rw [hparts, if_pos (by simpa using hfield), List.flatMap_cons]
      · rw [Scope.saidIn_of_ne hfield, if_neg (by simpa using hfield)]
        rfl

end AdminConsole.Query

namespace AdminConsole.Search

open Query

/-- A filter in effect, with its texts. -/
abbrev Chip := FilterKey × List String

/-- A chip without one of its texts; it goes when nothing is left. -/
def Chip.without (value : String) (c : Chip) : Option Chip :=
  match c.2.filter (· != value) with
  | [] => none
  | texts => some (c.1, texts)

/-- The entries of params that are no controls. -/
def filterEntries (params : Params) : List (String × Value) :=
  params.toList.filter fun e => !controlFields.contains e.1

/-- A value of a field from which a text is taken off; it goes when nothing is left. -/
def takeOff (field value : String) (f : String) (v : Value) : Option Value :=
  if f = field then Value.ofScalars? (v.without [value]) else some v

def chipOf (e : String × Value) : Chip := (FilterKey.parse e.1, e.2.scalars.map Scalar.toText)

variable {params : Params} {field location value : String} {v : Value}

/-! ## Entries -/

theorem ascending_filterEntries (params : Params) : Entries.Ascending (filterEntries params) :=
  params.ascending.filter _

theorem get?_filterEntries (params : Params) (field : String) :
    Entries.get? field (filterEntries params)
      = if field ∈ controlFields then none else params.get? field := by
  have hfilter : Entries.get? field (filterEntries params) = _ :=
    Entries.get?_filter params.ascending _ field
  rw [hfilter]
  show (params.get? field).filter _ = _
  by_cases hcontrol : field ∈ controlFields
  · simp [hcontrol]
  · cases params.get? field with
    | none => simp
    | some v => simp [hcontrol]

theorem mem_filterEntries :
    (field, v) ∈ filterEntries params ↔ field ∉ controlFields ∧ params.get? field = some v := by
  rw [← Entries.get?_eq_some_iff (ascending_filterEntries params), get?_filterEntries]
  by_cases hcontrol : field ∈ controlFields
  · simp [hcontrol]
  · simp [hcontrol]

theorem filterEntries_withoutFilter {scope : Scope}
    (free : field ∉ controlFields → scope.defaults.get? field = none) (params : Params)
    (value : String) :
    filterEntries (withoutFilter scope params field value)
      = (filterEntries params).filterMap fun e =>
          (takeOff field value e.1 e.2).map fun v => (e.1, v) := by
  apply Entries.ext_get? (ascending_filterEntries _)
    (Entries.ascending_filterMap (ascending_filterEntries params) (takeOff field value))
  intro f
  rw [Entries.get?_filterMap (ascending_filterEntries params), get?_filterEntries,
    get?_filterEntries]
  by_cases hcontrol : f ∈ controlFields
  · rw [if_pos hcontrol, if_pos hcontrol]
    rfl
  · have hpage : f ≠ pageField := fun he => hcontrol (he ▸ List.mem_cons_self)
    rw [if_neg hcontrol, if_neg hcontrol]
    simp only [withoutFilter]
    rw [get?_resetPage, if_neg hpage]
    by_cases hf : f = field
    · subst hf
      cases hv : params.get? f with
      | none => simp only [removeField, hv, Option.bind_none]
      | some v =>
          rw [get?_removeField_self scope hv, free hcontrol, Option.or_none, Option.bind_some]
          exact (if_pos rfl).symm
    · rw [get?_removeField_of_ne scope params hf]
      cases params.get? f with
      | none => rfl
      | some v => exact (if_neg hf).symm

/-! ## Chips -/

theorem without_chipOf (value field : String) (v : Value) :
    Chip.without value (chipOf (field, v))
      = (Value.ofScalars? (v.without [value])).map fun w => chipOf (field, w) := by
  have htexts : (v.scalars.map Scalar.toText).filter (· != value)
      = (v.without [value]).map Scalar.toText := by
    rw [List.filter_map]
    congr 1
    apply List.filter_congr
    intro s _
    show (s.toText != value) = !([value].contains s.toText)
    rw [List.contains_cons, List.contains_nil, Bool.or_false]
    rfl
  simp only [Chip.without, chipOf]
  rw [htexts]
  cases v.without [value] with
  | nil => rfl
  | cons s ss =>
      simp only [Value.ofScalars?, Option.map_some, Value.scalars_ofParts]
      rfl

section Kinds

variable {k : Kind} {pageSize : Nat}

theorem defaults_of_not_control (hcontrol : field ∉ controlFields) :
    (k.scope pageSize).defaults.get? field = none := by
  show (k.defaults pageSize).get? field = none
  simp only [controlFields, List.mem_cons, List.not_mem_nil, or_false, not_or] at hcontrol
  rw [Kind.get?_defaults, if_neg hcontrol.2.2, if_neg hcontrol.2.1, if_neg hcontrol.1]

theorem isInteger_of_not_control (hcontrol : field ∉ controlFields) :
    (k.scope pageSize).isInteger field = false := by
  simp only [controlFields, List.mem_cons, List.not_mem_nil, or_false, not_or] at hcontrol
  rw [Kind.isInteger_scope]
  simp [hcontrol.1, hcontrol.2.1]

theorem activeFilters_eq (params : Params) :
    activeFilters (k.scope pageSize) params = (filterEntries params).map chipOf := by
  simp only [activeFilters, filterEntries]
  congr 1
  apply List.filter_congr
  intro e _
  by_cases hcontrol : e.1 ∈ controlFields
  · simp [hcontrol]
  · simp [hcontrol, defaults_of_not_control hcontrol]

/-- A filter is in effect if its field occurs in the location, and has the texts of its occurrences. -/
theorem get?_parse_filter (k : Kind) (pageSize : Nat) (location : String)
    (hcontrol : field ∉ controlFields) :
    (parse (k.scope pageSize) location).get? field
      = Value.ofScalars? ((k.scope pageSize).said field (pieces location)) := by
  rw [get?_parse, defaults_of_not_control hcontrol, Option.or_none]

theorem mem_chips_iff {texts : List String} :
    (∃ key, (key, texts) ∈ activeFilters (k.scope pageSize) (parse (k.scope pageSize) location) ∧
        key.toText = field) ↔
      field ∉ controlFields ∧ (k.scope pageSize).Occurs field location ∧
        texts = (k.scope pageSize).textsOf field location := by
  rw [activeFilters_eq]
  constructor
  · rintro ⟨key, hmem, rfl⟩
    obtain ⟨⟨f, v⟩, he, hchip⟩ := List.mem_map.mp hmem
    obtain ⟨rfl, rfl⟩ := Prod.mk.inj hchip
    obtain ⟨hcontrol, hv⟩ := mem_filterEntries.mp he
    rw [get?_parse_filter k pageSize location hcontrol] at hv
    rw [FilterKey.toText_parse, ← said_ne_nil_iff, ← map_toText_said (isInteger_of_not_control hcontrol)]
    cases hsaid : (k.scope pageSize).said f (pieces location) with
    | nil =>
        rw [hsaid] at hv
        cases hv
    | cons s ss =>
        rw [hsaid] at hv
        cases hv
        exact ⟨hcontrol, List.cons_ne_nil s ss, by rw [Value.scalars_ofParts]⟩
  · rintro ⟨hcontrol, hoccurs, rfl⟩
    have hne := said_ne_nil_iff.mpr hoccurs
    have hv := get?_parse_filter k pageSize location hcontrol
    rw [Value.ofScalars?_of_ne_nil hne] at hv
    refine ⟨FilterKey.parse field, List.mem_map.mpr ⟨_, mem_filterEntries.mpr ⟨hcontrol, hv⟩, ?_⟩,
      FilterKey.toText_parse field⟩
    simp only [chipOf]
    rw [Value.scalars_ofParts, map_toText_said (isInteger_of_not_control hcontrol)]

theorem pairwise_chips (params : Params) :
    ((activeFilters (k.scope pageSize) params).map fun c => c.1.toText).Pairwise (· < ·) := by
  have hfields : (activeFilters (k.scope pageSize) params).map (fun c => c.1.toText)
      = (filterEntries params).map fun e => e.1 := by
    rw [activeFilters_eq, List.map_map]
    exact List.map_congr_left fun e _ => FilterKey.toText_parse e.1
  rw [hfields]
  exact List.pairwise_map.mpr (ascending_filterEntries params)

/-- Taking a text off a chip is seen in that chip alone. -/
theorem activeFilters_withoutFilter (params : Params) (field value : String) :
    activeFilters (k.scope pageSize) (withoutFilter (k.scope pageSize) params field value)
      = (activeFilters (k.scope pageSize) params).filterMap fun c =>
          if c.1 = FilterKey.parse field then Chip.without value c else some c := by
  rw [activeFilters_eq, activeFilters_eq,
    filterEntries_withoutFilter defaults_of_not_control, List.map_filterMap, List.filterMap_map]
  congr 1
  funext e
  obtain ⟨f, v⟩ := e
  simp only [Function.comp_apply]
  by_cases hf : f = field
  · subst hf
    have hkey : (chipOf (f, v)).1 = FilterKey.parse f := rfl
    simp only [takeOff, if_true]
    rw [Option.map_map, if_pos hkey, without_chipOf]
    rfl
  · have hkey : (chipOf (f, v)).1 ≠ FilterKey.parse field := fun he => hf (FilterKey.parse_injective he)
    simp only [takeOff]
    rw [if_neg hf, if_neg hkey]
    rfl

end Kinds

/-- **Chips mirror the location, and each can be taken off.**  They stand in the order of their fields,
one for each field of the list that occurs in the location and is no control; the key of a chip is
written as its field, and its texts are those of all occurrences.  When a text of a chip is taken off,
the chips of the new location are the old ones, but for that text in that chip. -/
theorem chips_mirror_location (k : Kind) {pageSize : Nat} (size : (pageSize : Int) ≤ Text.maxNat32)
    {location : String} (plain : Plain location) :
    let scope := k.scope pageSize
    let chips := activeFilters scope (parse scope location)
    (chips.map fun c => c.1.toText).Pairwise (· < ·) ∧
    (∀ field texts, (∃ key, (key, texts) ∈ chips ∧ key.toText = field) ↔
      field ∉ ["page", "page_size", "order_by"] ∧ scope.Occurs field location ∧
        texts = scope.textsOf field location) ∧
    ∀ key texts, (key, texts) ∈ chips → ∀ value,
      activeFilters scope
          (parse scope ((Edit.without key.toText value).relocate scope location))
        = chips.filterMap fun c => if c.1 = key then Chip.without value c else some c := by
  intro scope chips
  refine ⟨pairwise_chips _, fun field texts => mem_chips_iff, fun key texts hchip value => ?_⟩
  have hkey : FilterKey.parse key.toText = key := by
    simp only [chips, scope] at hchip
    rw [activeFilters_eq] at hchip
    obtain ⟨e, -, he⟩ := List.mem_map.mp hchip
    obtain ⟨rfl, -⟩ := Prod.mk.inj he
    rw [FilterKey.toText_parse]
  rw [Edit.parse_relocate (paged_scope k size) plain (e := .without key.toText value) trivial]
  show activeFilters scope (withoutFilter scope (parse scope location) key.toText value) = _
  rw [activeFilters_withoutFilter, hkey]

/-- A comma inside a text, a text that occurs twice, and a key with both marks and a lookup. -/
theorem chips_mirror_location_teams :
    let location := "?user.q&team.or__not__name__in=a%2C,b&team.page=3&team.name=&team.or__not__name__in=b"
    let scope := Kind.scope .teams 20
    let key : FilterKey := ⟨true, true, "name", some .among⟩
    activeFilters scope (parse scope location)
        = [(⟨false, false, "name", none⟩, [""]), (key, ["a,", "b", "b"])] ∧
      activeFilters scope (parse scope ((Edit.without key.toText "b").relocate scope location))
        = [(⟨false, false, "name", none⟩, [""]), (key, ["a,"])] := by
  intro location scope key
  have plain : Plain location := by decide +kernel
  have size : ((20 : Nat) : Int) ≤ Text.maxNat32 := by decide
  have hchips : activeFilters scope (parse scope location)
      = [(⟨false, false, "name", none⟩, [""]), (key, ["a,", "b", "b"])] := by decide +kernel
  obtain ⟨-, -, hwithout⟩ := chips_mirror_location .teams size plain
  have hmem : (key, ["a,", "b", "b"]) ∈ activeFilters scope (parse scope location) := by
    rw [hchips]
    decide
  refine ⟨hchips, (hwithout key _ hmem "b").trans ?_⟩
  show (activeFilters scope (parse scope location)).filterMap _ = _
  rw [hchips]
  decide +kernel

end AdminConsole.Search
