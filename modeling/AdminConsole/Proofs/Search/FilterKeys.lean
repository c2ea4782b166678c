/-
# `Proofs.Search.FilterKeys` — filter keys as texts

Taking a filter key apart loses nothing.  Each step of it gives parts that make up
the text they were taken from: a mark and what is behind it (`append_takeMark`), the
text in front of the last separator and that behind it (`cutLast_of_splitLast`), and
so a field and its lookup (`append_splitLookup`).  So a key that was read is written
back character by character (`toText_parse`), and different texts are different
keys.

The other way round a key may be written like another one: a field can begin like a
mark or end like a lookup, and a lookup behind no field is read as part of one.
Each step of reading has an exact condition under which it finds the part that was
written (`takeMark_append_iff`, `splitLookup_append_iff`), and a key is read back
exactly if all of them hold (`text_and_key_agree`).  What was read always is, so the
lookup of a key can be told from its text (`lookup_parse_eq_some_iff`).
-/
import AdminConsole.Proofs.Text.Pieces
import AdminConsole.Search.FilterKey

namespace AdminConsole.Search

namespace Lookup

theorem name_of_ofName? {s : String} {l : Lookup} (h : ofName? s = some l) : l.name = s := by
  have hname := List.find?_some h
  simpa using hname

theorem ofName?_name (l : Lookup) : ofName? l.name = some l := by
  cases l <;> rfl

theorem not_mem_name (l : Lookup) : '_' ∉ l.name.toList := by
  cases l <;> decide

end Lookup

namespace FilterKey

/-- The text of a mark, if it is there. -/
def markText (mark : String) (there : Bool) : String := if there then mark else ""

/-- The text of a key behind its marks. -/
def body (k : FilterKey) : String := k.field ++ lookupText k.lookup

theorem append_takeMark (mark : String) (cs : List Char) :
    (markText mark (takeMark mark cs).1).toList ++ (takeMark mark cs).2 = cs := by
  simp only [takeMark]
  cases h : Text.stripStart? mark.toList cs with
  | none => rfl
  | some rest => exact (Text.stripStart?_eq_some_iff.mp h).symm

/-- A text cut at its last separator.  Separators may overlap, so the one at which it is cut is the last
only if none begins at its second character either. -/
structure CutLast (cs before after : List Char) : Prop where
  whole : cs = before ++ separator.toList ++ after
  last : ¬separator.toList <:+: '_' :: after

theorem splitLast_eq_none_iff {cs : List Char} :
    splitLast cs = none ↔ ¬separator.toList <:+: cs := by
  induction cs with
  | nil => exact ⟨fun _ => by decide, fun _ => rfl⟩
  | cons c r ih =>
      rw [splitLast, List.infix_cons_iff]
      cases hr : splitLast r with
      | some cut =>
          have hin : ¬¬separator.toList <:+: r := by
            rw [← ih, hr]
            exact nofun
          exact ⟨nofun, fun h => absurd (fun hr => h (.inr hr)) hin⟩
      | none =>
          have hout : ¬separator.toList <:+: r := ih.mp hr
          have hfront : separator.toList <+: c :: r ↔ c = '_' ∧ ['_'] <+: r := by
            show ['_', '_'] <+: c :: r ↔ _
            rw [List.cons_prefix_cons, eq_comm]
          rw [hfront, or_iff_left hout]
          by_cases hc : c = '_'
          · subst hc
            simp [Text.stripStart?_eq_none_iff]
          · simp [hc]

theorem cutLast_of_splitLast {cs before after : List Char}
    (h : splitLast cs = some (before, after)) : CutLast cs before after := by
  induction cs generalizing before with
  | nil => cases h
  | cons c r ih =>
      rw [splitLast] at h
      split at h
      next before' after' hr =>
          cases h
          have hcut := ih hr
          exact ⟨by rw [hcut.whole]; rfl, hcut.last⟩
      next hr =>
          split at h
          next hc =>
              obtain ⟨rest, hrest, he⟩ := Option.map_eq_some_iff.mp h
              cases he
              have hr' : r = '_' :: after := Text.stripStart?_eq_some_iff.mp hrest
              exact ⟨by rw [hc, hr']; rfl, hr' ▸ splitLast_eq_none_iff.mp hr⟩
          next => cases h

theorem splitLast_of_cutLast {cs before after : List Char} (h : CutLast cs before after) :
    splitLast cs = some (before, after) := by
  obtain ⟨rfl, hlast⟩ := h
  induction before with
  | nil =>
      have hnone : splitLast ('_' :: after) = none := splitLast_eq_none_iff.mpr hlast
      show splitLast ('_' :: '_' :: after) = _
      rw [splitLast, hnone]
      rfl
  | cons c before ih =>
      show splitLast (c :: (before ++ separator.toList ++ after)) = _
      rw [splitLast, ih]

theorem append_splitLookup (cs : List Char) :
    (splitLookup cs).1 ++ (lookupText (splitLookup cs).2).toList = cs := by
  have whole : cs ++ (lookupText none).toList = cs := List.append_nil cs
  simp only [splitLookup]
  split
  next before after hcut =>
      split
      · exact whole
      · split
        next l hl =>
            rw [(cutLast_of_splitLast hcut).whole]
            simp only [lookupText]
            rw [String.toList_append, Lookup.name_of_ofName? hl, String.toList_ofList,
              List.append_assoc]
        next => exact whole
  next => exact whole

theorem toList_body (k : FilterKey) :
    k.body.toList = k.field.toList ++ (lookupText k.lookup).toList := by
  simp only [body]
  exact String.toList_append

theorem toList_toText (k : FilterKey) :
    k.toText.toList = (markText eitherMark k.either).toList
      ++ ((markText negatedMark k.negated).toList ++ k.body.toList) := by
  simp only [toText, markText]
  rw [String.toList_append, String.toList_append, String.toList_append, List.append_assoc,
    List.append_assoc, toList_body]

/-- **A key is written as it was read.** -/
theorem toText_parse (raw : String) : (parse raw).toText = raw := by
  apply String.toList_inj.mp
  rw [toList_toText, toList_body]
  simp only [parse]
  rw [String.toList_ofList, append_splitLookup, append_takeMark, append_takeMark]

theorem parse_injective {raw raw' : String} (h : parse raw = parse raw') : raw = raw' := by
  rw [← toText_parse raw, h, toText_parse]

/-! ## Reading what was written -/

/-- A mark is found as it was written, unless the rest begins like the mark that was left out. -/
theorem takeMark_append_iff {mark : String} {there : Bool} {rest : List Char} :
    takeMark mark ((markText mark there).toList ++ rest) = (there, rest)
      ↔ there = true ∨ ¬mark.toList <+: rest := by
  simp only [takeMark]
  cases there with
  | true =>
      have hstrip : Text.stripStart? mark.toList (mark.toList ++ rest) = some rest :=
        Text.stripStart?_eq_some_iff.mpr rfl
      simp [markText, hstrip]
  | false =>
      have hbare : (markText mark false).toList ++ rest = rest := rfl
      rw [hbare]
      cases hstrip : Text.stripStart? mark.toList rest with
      | none => simpa using Text.stripStart?_eq_none_iff.mp hstrip
      | some behind =>
          have hrest : rest = mark.toList ++ behind := Text.stripStart?_eq_some_iff.mp hstrip
          simp [hrest]

theorem cutLast_lookup (field : List Char) (l : Lookup) :
    CutLast (field ++ (lookupText (some l)).toList) field l.name.toList where
  whole := by
    show field ++ (separator ++ l.name).toList = _
    rw [String.toList_append, List.append_assoc]
  last := by
    have hname := l.not_mem_name
    intro h
    rcases List.infix_cons_iff.mp h with h | h
    · obtain ⟨-, hfront⟩ := List.cons_prefix_cons.mp h
      exact hname (hfront.subset List.mem_cons_self)
    · exact hname (h.subset List.mem_cons_self)

/-- A field and its lookup are found as they were written if there is a field in front of a lookup,
and if a field alone does not end like one with a lookup. -/
theorem splitLookup_append_iff {field : List Char} {lookup : Option Lookup} :
    splitLookup (field ++ (lookupText lookup).toList) = (field, lookup)
      ↔ (lookup ≠ none → field ≠ []) ∧
        (lookup = none → ∀ before (l : Lookup), CutLast field before l.name.toList → before = []) := by
  cases lookup with
  | some l =>
      simp only [splitLookup]
      rw [splitLast_of_cutLast (cutLast_lookup field l)]
      simp only [String.ofList_toList, Lookup.ofName?_name]
      cases field with
      | nil => simp
      | cons c field => simp
  | none =>
      have hwhole : field ++ (lookupText none).toList = field := List.append_nil field
      rw [hwhole]
      constructor
      · intro h
        refine ⟨nofun, fun _ before l hcut => ?_⟩
        simp only [splitLookup] at h
        rw [splitLast_of_cutLast hcut] at h
        simp only [String.ofList_toList, Lookup.ofName?_name] at h
        split at h
        next hbefore => exact List.isEmpty_iff.mp hbefore
        next => exact absurd (congrArg Prod.snd h) nofun
      · rintro ⟨-, hplain⟩
        simp only [splitLookup]
        split
        next before suffix hcut =>
            split
            · rfl
            next hbefore =>
                split
                next l hl =>
                    have hname : l.name.toList = suffix := by
                      rw [Lookup.name_of_ofName? hl, String.toList_ofList]
                    have hnil := hplain rfl before l (hname ▸ cutLast_of_splitLast hcut)
                    exact absurd (by rw [hnil]; rfl) hbefore
                next => rfl
        next => rfl

/-- A key whose text tells its parts: no mark that it lacks is read at the front of its body, a lookup
stands behind a field, and a field alone does not end like one with a lookup. -/
structure Unambiguous (k : FilterKey) : Prop where
  either : k.either = true ∨ k.negated = true ∨ ¬eitherMark.toList <+: k.body.toList
  negated : k.negated = true ∨ ¬negatedMark.toList <+: k.body.toList
  lookup : k.lookup ≠ none → k.field ≠ ""
  plain : k.lookup = none →
    ∀ before (l : Lookup), CutLast k.field.toList before l.name.toList → before = []

theorem eitherMark_prefix_iff {there : Bool} {rest : List Char} :
    eitherMark.toList <+: (markText negatedMark there).toList ++ rest
      ↔ there = false ∧ eitherMark.toList <+: rest := by
  cases there with
  | true =>
      have hne : ¬['o', 'r', '_', '_'] <+: 'n' :: ('o' :: 't' :: '_' :: '_' :: rest) := by
        rw [List.cons_prefix_cons]
        exact fun h => absurd h.1 (by decide)
      exact ⟨fun h => absurd h hne, fun h => absurd h.1 (by decide)⟩
  | false => exact ⟨fun h => ⟨rfl, h⟩, fun h => h.2⟩

theorem takeMark_append_of_fst {mark : String} {there : Bool} {rest : List Char}
    (h : (takeMark mark ((markText mark there).toList ++ rest)).1 = there) :
    takeMark mark ((markText mark there).toList ++ rest) = (there, rest) := by
  have hwhole := append_takeMark mark ((markText mark there).toList ++ rest)
  rw [h] at hwhole
  exact Prod.ext h (List.append_cancel_left hwhole)

/-- A key is read back exactly if each step of reading finds its part. -/
theorem parse_toText_iff_steps (k : FilterKey) :
    parse k.toText = k ↔
      takeMark eitherMark ((markText eitherMark k.either).toList
          ++ ((markText negatedMark k.negated).toList ++ k.body.toList))
        = (k.either, (markText negatedMark k.negated).toList ++ k.body.toList) ∧
      takeMark negatedMark ((markText negatedMark k.negated).toList ++ k.body.toList)
        = (k.negated, k.body.toList) ∧
      splitLookup k.body.toList = (k.field.toList, k.lookup) := by
  simp only [parse]
  rw [toList_toText]
  constructor
  · intro h
    have heither := takeMark_append_of_fst (congrArg FilterKey.either h)
    rw [heither] at h
    have hnegated := takeMark_append_of_fst (congrArg FilterKey.negated h)
    rw [hnegated] at h
    have hfield : String.ofList (splitLookup k.body.toList).1 = k.field :=
      congrArg FilterKey.field h
    refine ⟨heither, hnegated, Prod.ext ?_ (congrArg FilterKey.lookup h)⟩
    rw [← hfield, String.toList_ofList]
  · rintro ⟨heither, hnegated, hlookup⟩
    rw [heither]
    simp only
    rw [hnegated]
    simp only
    rw [hlookup, String.ofList_toList]

theorem splitLookup_body_parse (raw : String) :
    splitLookup (parse raw).body.toList = ((parse raw).field.toList, (parse raw).lookup) :=
  ((parse_toText_iff_steps (parse raw)).mp (congrArg parse (toText_parse raw))).2.2

/-- A key has a lookup exactly if a field and the text of that lookup stand behind its marks. -/
theorem lookup_parse_eq_some_iff {raw : String} {l : Lookup} :
    (parse raw).lookup = some l
      ↔ ∃ field, field ≠ [] ∧ (parse raw).body.toList = field ++ (lookupText (some l)).toList := by
  have hcut := splitLookup_body_parse raw
  constructor
  · intro h
    rw [toList_body, h] at hcut
    have hfield : (parse raw).field.toList ≠ [] := (splitLookup_append_iff.mp hcut).1 nofun
    exact ⟨_, hfield, by rw [toList_body, h]⟩
  · rintro ⟨field, hfield, hbody⟩
    have hread : splitLookup (field ++ (lookupText (some l)).toList) = (field, some l) :=
      splitLookup_append_iff.mpr ⟨fun _ => hfield, nofun⟩
    rw [hbody, hread] at hcut
    exact (congrArg Prod.snd hcut).symm

/-- **Reading and writing of keys agree.**  Every text is that of the key read from it; and a key is
the one read from its text exactly if it is unambiguous. -/
theorem text_and_key_agree :
    (∀ raw, (parse raw).toText = raw) ∧ ∀ k : FilterKey, parse k.toText = k ↔ k.Unambiguous := by
  refine ⟨toText_parse, fun k => ?_⟩
  have hunmarked : (k.either = true ∨
      ¬eitherMark.toList <+: (markText negatedMark k.negated).toList ++ k.body.toList)
        ↔ k.either = true ∨ k.negated = true ∨ ¬eitherMark.toList <+: k.body.toList := by
    rw [eitherMark_prefix_iff, Classical.not_and_iff_not_or_not, Bool.not_eq_false]
  have hfield : k.field.toList ≠ [] ↔ k.field ≠ "" := not_congr String.toList_eq_nil_iff
  rw [parse_toText_iff_steps, takeMark_append_iff, takeMark_append_iff, toList_body,
    splitLookup_append_iff, ← toList_body, hunmarked, hfield]
  exact ⟨fun ⟨heither, hnegated, hlookup, hplain⟩ => ⟨heither, hnegated, hlookup, hplain⟩,
    fun h => ⟨h.either, h.negated, h.lookup, h.plain⟩⟩

/-- The last of three underscores in a row begins the name. -/
example : parse (toText ⟨true, false, "os_", some .exact⟩) = ⟨true, false, "os_", some .exact⟩ := by
  decide +kernel

/-- A field that is spelled like a mark. -/
example : parse (toText ⟨false, false, "or", some .among⟩) = ⟨true, false, "in", none⟩ := by
  decide +kernel

end FilterKey

end AdminConsole.Search
