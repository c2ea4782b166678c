/-
# `Proofs.Api.Wire` — what is sent of params

A key that is sent several times is read as alternatives, but a test for membership
takes all its texts in one value.  Whether a key is such a test is found out twice:
a filter key is taken apart into marks, field and lookup, and params are sent by
the ending of the key alone.

The ending is found in more keys than the lookup (`isMembership_iff`).  A lookup
stands behind a field, and a field behind the marks; but the underscores at the end
of a mark may be taken for the beginning of the ending, and an ending may stand
where there is no field.  Ten keys leave no room in this way (`crowded`), and under
these alternatives are sent as one text (`crowded_joined`).  Under every other key
the two readings agree, so that params are sent as their keys are read
(`sent_as_read`).
-/
import AdminConsole.Api.Call
import AdminConsole.Proofs.Dict
import AdminConsole.Proofs.Search.FilterKeys
import AdminConsole.Proofs.Text.ByteOrder

namespace AdminConsole.Query

open Search

/-! ## Keys that end like a membership test -/

/-- The keys that end like a membership test and have no room for a field in front of the ending, which
stands right behind the marks or begins inside the last of them. -/
def crowded : List String :=
  ["__in",
   "or__in", "or___in", "or____in",
   "not__in", "not___in", "not____in",
   "or__not__in", "or__not___in", "or__not____in"]

theorem lookup_of_crowded {key : String} (h : key ∈ crowded) :
    (FilterKey.parse key).lookup = none := by
  have all : ∀ key ∈ crowded, (FilterKey.parse key).lookup = none := by decide +kernel
  exact all key h

theorem isMembership_of_crowded {key : String} (h : key ∈ crowded) : isMembership key = true := by
  have all : ∀ key ∈ crowded, isMembership key = true := by decide +kernel
  exact all key h

theorem isMembership_iff_suffix {key : String} :
    isMembership key = true ↔ membershipEnding.toList <:+ key.toList :=
  Text.endsWith_iff

theorem lookupText_among : FilterKey.lookupText (some .among) = membershipEnding := rfl

theorem marks_append_body (raw : String) :
    let k := FilterKey.parse raw
    FilterKey.markText FilterKey.eitherMark k.either
      ++ (FilterKey.markText FilterKey.negatedMark k.negated ++ k.body) = raw := by
  intro k
  apply String.toList_inj.mp
  rw [String.toList_append, String.toList_append, ← FilterKey.toList_toText,
    FilterKey.toText_parse]

theorem body_suffix (raw : String) : (FilterKey.parse raw).body.toList <:+ raw.toList := by
  have hkey := congrArg String.toList (marks_append_body raw)
  rw [String.toList_append, String.toList_append, ← List.append_assoc] at hkey
  exact ⟨_, hkey⟩

/-- A key is crowded if what is behind its marks is no more than the ending. -/
theorem mem_crowded {key : String} (h : isMembership key = true)
    (hbody : (FilterKey.parse key).body.toList <:+ membershipEnding.toList) : key ∈ crowded := by
  have all : ∀ either negated : Bool, ∀ body ∈ ["__in", "_in", "in", "n", ""],
      let key := FilterKey.markText FilterKey.eitherMark either
        ++ (FilterKey.markText FilterKey.negatedMark negated ++ body)
      isMembership key = true → key ∈ crowded := by decide +kernel
  have hcases : (FilterKey.parse key).body ∈ ["__in", "_in", "in", "n", ""] := by
    have hsuffix : (FilterKey.parse key).body.toList <:+ ['_', '_', 'i', 'n'] := hbody
    simp only [List.suffix_cons_iff, List.suffix_nil] at hsuffix
    simp only [List.mem_cons, List.not_mem_nil, or_false, ← String.toList_inj]
    exact hsuffix
  -- the key is rebuilt from its marks and its body, so that it is one of the twenty above
  have hkey := marks_append_body key
  rw [← hkey] at h ⊢
  exact all _ _ _ hcases h

/-- **A key ends like a membership test exactly if it is read as one, or is crowded.** -/
theorem isMembership_iff {key : String} :
    isMembership key = true ↔ (FilterKey.parse key).lookup = some .among ∨ key ∈ crowded := by
  have hwhole := body_suffix key
  constructor
  · intro h
    -- body and ending both end the key: either the body is no more than the ending, or a field is left
    by_cases hbody : (FilterKey.parse key).body.toList <:+ membershipEnding.toList
    · exact .inr (mem_crowded h hbody)
    · obtain ⟨field, hfield⟩ := (List.suffix_or_suffix_of_suffix
        (isMembership_iff_suffix.mp h) hwhole).resolve_right hbody
      have hne : field ≠ [] := by
        rintro rfl
        rw [List.nil_append] at hfield
        rw [hfield] at hbody
        exact hbody List.suffix_rfl
      rw [← lookupText_among] at hfield
      exact .inl (FilterKey.lookup_parse_eq_some_iff.mpr ⟨field, hne, hfield.symm⟩)
  · rintro (h | h)
    · obtain ⟨field, -, hbody⟩ := FilterKey.lookup_parse_eq_some_iff.mp h
      rw [lookupText_among] at hbody
      have hend : membershipEnding.toList <:+ (FilterKey.parse key).body.toList :=
        ⟨field, hbody.symm⟩
      exact isMembership_iff_suffix.mpr (hend.trans hwhole)
    · exact isMembership_of_crowded h

/-! ## Pairs -/

/-- The texts of scalars as one text, with commas between them. -/
def joined (ss : List Scalar) : String := Text.joinText "," (ss.map Scalar.toText)

theorem joined_single (s : Scalar) : joined [s] = s.toText := by
  show String.ofList s.toText.toList = s.toText
  exact String.ofList_toList

/-- The pairs that are sent under a key. -/
def sentUnder (params : Params) (key : String) : List (String × String) :=
  (wirePairs params).filter fun p => p.1 == key

theorem fieldPairs_many {key : String} {ss : List Scalar} (h : ss ≠ []) :
    fieldPairs key (.many ss) =
      if isMembership key then [(key, joined ss)] else ss.map fun s => (key, s.toText) := by
  cases ss with
  | nil => exact absurd rfl h
  | cons s ss => rfl

theorem fst_of_mem_fieldPairs {key : String} {v : Value} {p : String × String}
    (h : p ∈ fieldPairs key v) : p.1 = key := by
  cases v with
  | one s => rw [List.mem_singleton.mp h]
  | many ss =>
      cases ss with
      | nil => cases h
      | cons s ss =>
          rw [fieldPairs_many (List.cons_ne_nil s ss)] at h
          split at h
          · rw [List.mem_singleton.mp h]
          · obtain ⟨t, -, rfl⟩ := List.mem_map.mp h
            rfl

theorem filter_fieldPairs (key key' : String) (v : Value) :
    (fieldPairs key' v).filter (fun p => p.1 == key)
      = if key = key' then fieldPairs key' v else [] := by
  split
  next h =>
      refine List.filter_eq_self.mpr fun p hp => ?_
      rw [fst_of_mem_fieldPairs hp, h]
      exact beq_self_eq_true key'
  next h =>
      refine List.filter_eq_nil_iff.mpr fun p hp => ?_
      rw [fst_of_mem_fieldPairs hp, beq_iff_eq]
      exact Ne.symm h

theorem sentUnder_eq (params : Params) (key : String) :
    sentUnder params key = ((params.get? key).map (fieldPairs key)).getD [] := by
  have entries : ∀ es : List (String × Value), Entries.Ascending es →
      (es.flatMap fun e => fieldPairs e.1 e.2).filter (fun p => p.1 == key)
        = ((Entries.get? key es).map (fieldPairs key)).getD [] := by
    intro es
    induction es with
    | nil => intro _; rfl
    | cons e es ih =>
        intro hes
        obtain ⟨hlt, htail⟩ := List.pairwise_cons.mp hes
        rw [List.flatMap_cons, List.filter_append, filter_fieldPairs, ih htail, Entries.get?_cons]
        by_cases hkey : key = e.1
        · rw [if_pos hkey, if_pos hkey, hkey, Entries.get?_eq_none_of_lt hlt]
          exact List.append_nil _
        · rw [if_neg hkey, if_neg hkey]
          rfl
  exact entries params.entries params.ascending

theorem pairwise_wirePairs (params : Params) :
    (wirePairs params).Pairwise fun p q =>
      Percent.utf8 p.1.toList ≤ Percent.utf8 q.1.toList := by
  refine List.pairwise_flatMap.mpr ⟨fun e _ => ?_, params.ascending.imp fun hlt p hp q hq => ?_⟩
  · refine List.pairwise_iff_forall_sublist.mpr fun {p q} hpq => ?_
    have hp : p.1 = e.1 := fst_of_mem_fieldPairs (hpq.subset (by simp))
    have hq : q.1 = e.1 := fst_of_mem_fieldPairs (hpq.subset (by simp))
    rw [hp, hq]
    exact List.le_refl _
  · rw [fst_of_mem_fieldPairs hp, fst_of_mem_fieldPairs hq]
    exact List.le_of_lt (Percent.utf8_lt_iff.mpr hlt)

/-- A sequence of two scalars or more is joined if its key has the ending, and else repeats it. -/
theorem sentUnder_many {params : Params} {key : String} {ss : List Scalar}
    (h : params.get? key = some (.many ss)) (two : 2 ≤ ss.length) :
    sentUnder params key =
      if isMembership key then [(key, joined ss)] else ss.map fun s => (key, s.toText) := by
  have hne : ss ≠ [] := List.ne_nil_of_length_pos (by omega)
  rw [sentUnder_eq, h]
  exact fieldPairs_many hne

theorem sentUnder_eq_joined_iff {params : Params} {key : String} {ss : List Scalar}
    (h : params.get? key = some (.many ss)) (two : 2 ≤ ss.length) :
    sentUnder params key = [(key, joined ss)] ↔ isMembership key = true := by
  rw [sentUnder_many h two]
  constructor
  · intro hsent
    by_cases hm : isMembership key = true
    · exact hm
    · rw [if_neg hm] at hsent
      have hlength := congrArg List.length hsent
      rw [List.length_map, List.length_singleton] at hlength
      omega
  · exact fun hm => if_pos hm

/-- **Params are sent as their keys are read**, but for the crowded ones.  Pairs come in the order of
the bytes of their keys, a scalar gives one and an empty sequence none.  A sequence of two scalars or
more is joined under a key exactly if the key is read as a membership test, and else repeats it; under
a crowded key, which is not read as one, it is joined all the same. -/
theorem sent_as_read (params : Params) :
    ((wirePairs params).Pairwise fun p q =>
      Percent.utf8 p.1.toList ≤ Percent.utf8 q.1.toList) ∧
    (∀ key, params.get? key = none ∨ params.get? key = some (.many []) →
      sentUnder params key = []) ∧
    (∀ key s, params.get? key = some (.one s) ∨ params.get? key = some (.many [s]) →
      sentUnder params key = [(key, s.toText)]) ∧
    ∀ key ss, params.get? key = some (.many ss) → 2 ≤ ss.length →
      (key ∉ crowded →
        (sentUnder params key = [(key, joined ss)]
          ↔ (FilterKey.parse key).lookup = some .among) ∧
        ((FilterKey.parse key).lookup ≠ some .among →
          sentUnder params key = ss.map fun s => (key, s.toText))) ∧
      (key ∈ crowded →
        (FilterKey.parse key).lookup = none ∧ sentUnder params key = [(key, joined ss)]) := by
  refine ⟨pairwise_wirePairs params, fun key h => ?_, fun key s h => ?_,
    fun key ss h two => ⟨fun hroom => ?_, fun hcrowded => ?_⟩⟩
  · rw [sentUnder_eq]
    rcases h with h | h
    · rw [h]
      rfl
    · rw [h]
      rfl
  · rw [sentUnder_eq]
    rcases h with h | h
    · rw [h]
      rfl
    · rw [h]
      show fieldPairs key (.many [s]) = _
      rw [fieldPairs_many (List.cons_ne_nil s []), joined_single]
      exact ite_self _
  · have hread : isMembership key = true ↔ (FilterKey.parse key).lookup = some .among := by
      rw [isMembership_iff, or_iff_left hroom]
    refine ⟨(sentUnder_eq_joined_iff h two).trans hread, fun hlookup => ?_⟩
    rw [sentUnder_many h two, if_neg (mt hread.mp hlookup)]
  · exact ⟨lookup_of_crowded hcrowded,
      (sentUnder_eq_joined_iff h two).mpr (isMembership_of_crowded hcrowded)⟩

/-- An empty sequence, a field that is spelled like the lookup and has it, one that is spelled so and has
none, a key with a mark, and a scalar. -/
theorem sent_as_read_hosts :
    let params : Params := Dict.ofList
      [("id", .many []), ("not__in__in", .many [.int 1, .text "a"]),
        ("or__in", .many [.text "a", .text "b"]), ("or__name", .many [.text "b", .text "a"]),
        ("page", .one (.int 2))]
    sentUnder params "id" = [] ∧
      sentUnder params "not__in__in" = [("not__in__in", "1,a")] ∧
      sentUnder params "or__in" = [("or__in", "a,b")] ∧
      sentUnder params "or__name" = [("or__name", "b"), ("or__name", "a")] ∧
      sentUnder params "page" = [("page", "2")] := by
  intro params
  obtain ⟨-, hempty, hone, hmany⟩ := sent_as_read params
  have hid : params.get? "id" = some (.many []) := rfl
  have htest : params.get? "not__in__in" = some (.many [.int 1, .text "a"]) := rfl
  have hin : params.get? "or__in" = some (.many [.text "a", .text "b"]) := rfl
  have hname : params.get? "or__name" = some (.many [.text "b", .text "a"]) := rfl
  have hpage : params.get? "page" = some (.one (.int 2)) := rfl
  obtain ⟨hjoined, -⟩ := (hmany _ _ htest (by decide)).1 (by decide)
  obtain ⟨-, halike⟩ := (hmany _ _ hin (by decide)).2 (by decide)
  obtain ⟨-, hrepeated⟩ := (hmany _ _ hname (by decide)).1 (by decide)
  refine ⟨hempty _ (.inr hid), (hjoined.mpr (by decide +kernel)).trans ?_, halike.trans ?_,
    (hrepeated (by decide +kernel)).trans rfl, (hone _ _ (.inl hpage)).trans ?_⟩
  all_goals decide +kernel

/-- Alternatives of a field that is spelled like the lookup are sent as one text, though their key is read
as that field behind a mark. -/
theorem crowded_joined :
    let params : Params := Dict.ofList [("or__in", .many [.text "a", .text "b"])]
    FilterKey.parse "or__in" = ⟨true, false, "in", none⟩ ∧
      wirePairs params = [("or__in", "a,b")] ∧
      wirePairs params ≠ [("or__in", "a"), ("or__in", "b")] := by
  decide +kernel

end AdminConsole.Query
