/-
# `Proofs.Query.Writing` — the pieces of what is written

A search string is *plain* when no piece of it begins with a question mark, the
ones in front of the whole string aside.  Question marks are dropped from the
front at every reading, so in a string that is not plain a piece would lose one
as soon as an update leaves it in front.

For plain strings an update is exactly what it should be on pieces: the pieces
of other lists stay, each with its `=`, the own ones go, and what the params
say beyond the defaults is put at the end (`pieces_update`).  The result is
plain again (`plain_update`), which is what runs of updates need.  A single
update needs less: only the piece that comes to stand in front can lose a mark
(`pieces_update_of_front`).

Pieces have owners.  The key of a written piece decodes to the namespace and the
field it was written for, so it belongs to its scope and to no other one
(`field?_written`); a piece for the empty field belongs to nobody.
-/
import AdminConsole.Proofs.Query.Reading
import AdminConsole.Proofs.Text.Percent

namespace AdminConsole.Query

/-- No piece of a search string begins with a question mark, after those in front of all. -/
def Plain (search : String) : Prop :=
  ∀ p ∈ Text.splitAll '&' (search.toList.dropWhile (· == '?')), p.head? ≠ some '?'

instance (search : String) : Decidable (Plain search) :=
  inferInstanceAs (Decidable (∀ p ∈ Text.splitAll '&' _, p.head? ≠ some '?'))

/-- The piece that an update of one list puts in front does not begin with a question mark. -/
def Scope.FrontUnmarked (scope : Scope) (search : String) : Prop :=
  ∀ p ∈ (scope.foreign search).head?, p.toChars.head? ≠ some '?'

instance (scope : Scope) (search : String) : Decidable (scope.FrontUnmarked search) :=
  inferInstanceAs (Decidable (∀ p ∈ (scope.foreign search).head?, p.toChars.head? ≠ some '?'))

/-- The text of a piece that stays where it is cut. -/
structure Piece.Sound (cs : List Char) : Prop where
  nonempty : cs ≠ []
  unmarked : cs.head? ≠ some '?'
  whole : '&' ∉ cs

/-- The piece that is written for a field. -/
@[irreducible] def Scope.written (scope : Scope) (field : String) (v : Value) : Piece :=
  ((Percent.encode (scope.key field).toText).toList, v.encode.toList)

/-- The pieces that are written for params. -/
def Scope.writtenAll (scope : Scope) (params : Params) : List Piece :=
  (scope.deviations params).map fun e => scope.written e.1 e.2

/-! ## Pieces of a joined text -/

section Joined

variable {qs : List (List Char)}

/-- Dropping question marks from the front does not touch a row that begins without one. -/
theorem dropWhile_join (front : ∀ q ∈ qs.head?, q.head? ≠ some '?') :
    (Text.join ['&'] qs).dropWhile (· == '?') = Text.join ['&'] qs := by
  cases qs with
  | nil => rfl
  | cons q qs =>
      have hq : q.head? ≠ some '?' := front q rfl
      cases q with
      | nil => cases qs <;> rfl
      | cons c cs =>
          have hc : (c == '?') = false := by simpa using hq
          cases qs with
          | nil => exact List.dropWhile_cons_of_neg (by simp [hc])
          | cons r rs => exact List.dropWhile_cons_of_neg (by simp [hc])

theorem splitAll_join_front (hne : qs ≠ []) (whole : ∀ q ∈ qs, '&' ∉ q)
    (front : ∀ q ∈ qs.head?, q.head? ≠ some '?') :
    Text.splitAll '&' ((String.ofList (Text.join ['&'] qs)).toList.dropWhile (· == '?')) = qs := by
  rw [String.toList_ofList, dropWhile_join front]
  exact Text.splitAll_join hne whole

/-- Whole pieces are found again, if the first of them does not begin with a question mark. -/
theorem pieces_join_front (whole : ∀ q ∈ qs, q ≠ [] ∧ '&' ∉ q)
    (front : ∀ q ∈ qs.head?, q.head? ≠ some '?') :
    pieces (String.ofList (Text.join ['&'] qs)) = qs.map Piece.ofChars := by
  by_cases hne : qs = []
  · subst hne
    rfl
  · have hall : qs.filter (fun q => !q.isEmpty) = qs := by
      apply List.filter_eq_self.mpr
      intro q hq
      simp [(whole q hq).1]
    show List.map _ (List.filter _ (Text.splitAll '&' _)) = _
    rw [splitAll_join_front hne (fun q hq => (whole q hq).2) front, hall]

theorem whole_of_sound (h : ∀ q ∈ qs, Piece.Sound q) : ∀ q ∈ qs, q ≠ [] ∧ '&' ∉ q :=
  fun q hq => ⟨(h q hq).nonempty, (h q hq).whole⟩

theorem front_of_sound (h : ∀ q ∈ qs, Piece.Sound q) : ∀ q ∈ qs.head?, q.head? ≠ some '?' :=
  fun q hq => (h q (List.mem_of_mem_head? hq)).unmarked

theorem pieces_join (h : ∀ q ∈ qs, Piece.Sound q) :
    pieces (String.ofList (Text.join ['&'] qs)) = qs.map Piece.ofChars :=
  pieces_join_front (whole_of_sound h) (front_of_sound h)

theorem plain_join (h : ∀ q ∈ qs, Piece.Sound q) : Plain (String.ofList (Text.join ['&'] qs)) := by
  by_cases hne : qs = []
  · subst hne
    decide
  · simp only [Plain]
    rw [splitAll_join_front hne (fun q hq => (h q hq).whole) (front_of_sound h)]
    exact fun q hq => (h q hq).unmarked

end Joined

/-! ## Keys -/

theorem Key.ofChars?_key (scope : Scope) (field : String) :
    Key.ofChars? (scope.key field).toText.toList =
      if field = "" then none else some (scope.key field) := by
  have hdot : '.' ∉ scope.owner.toList := by
    have := scope.owner_ok.2
    simpa using this
  have howner : scope.owner.toList ≠ [] := by
    intro he
    have := scope.owner_ok.1
    simp only [Text.isAllBlank] at this
    rw [he] at this
    exact Bool.noConfusion this
  have htext : (scope.key field).toText.toList = scope.owner.toList ++ '.' :: field.toList := by
    show ((scope.owner ++ ".") ++ field).toList = _
    rw [String.toList_append, String.toList_append, List.append_assoc]
    rfl
  simp only [Key.ofChars?]
  rw [htext, Text.splitFirst_append hdot]
  by_cases hf : field = ""
  · subst hf
    simp
  · have hfield : field.toList ≠ [] := fun he => hf (String.toList_eq_nil_iff.mp he)
    simp [howner, hfield, hf, Scope.key]

theorem Scope.field?_written (scope other : Scope) (field : String) (v : Value) :
    other.field? (scope.written field v) =
      if field = "" then none else if scope.owner = other.owner then some field else none := by
  simp only [Scope.field?, Piece.key?, Scope.written]
  rw [Percent.decode_encode, Key.ofChars?_key]
  by_cases hf : field = ""
  · rw [if_pos hf, if_pos hf]
  · rw [if_neg hf, if_neg hf]
    simp [Scope.owns, Scope.key]

theorem Scope.field?_eq_none_of_ne {scope other : Scope} (hne : scope.owner ≠ other.owner)
    {p : Piece} {field : String} (h : other.field? p = some field) : scope.field? p = none := by
  simp only [Scope.field?] at h ⊢
  cases hk : p.key? with
  | none => rfl
  | some k =>
      simp only [hk] at h
      have howner : k.owner = other.owner := by
        by_cases ho : k.owner = other.owner
        · exact ho
        · simp [Scope.owns, ho] at h
      have hn : k.owner ≠ scope.owner := fun he => hne (he.symm.trans howner)
      simp [Scope.owns, hn]

/-! ## Written pieces -/

theorem get?_deviations (scope : Scope) (params : Params) (field : String) :
    Entries.get? field (scope.deviations params)
      = (params.get? field).filter fun v => !v.isEmpty && !scope.isDefault field v :=
  Entries.get?_filter params.ascending _ field

theorem Scope.fst_written (scope : Scope) (field : String) (v : Value) :
    (scope.written field v).1 = (Percent.encode (scope.key field).toText).toList := by
  simp only [Scope.written]

theorem Scope.snd_written (scope : Scope) (field : String) (v : Value) :
    (scope.written field v).2 = v.encode.toList := by
  simp only [Scope.written]

theorem toList_writeEntry (scope : Scope) (field : String) (v : Value) :
    (writeEntry (scope.key field).toText v).toList = (scope.written field v).toChars := by
  simp only [writeEntry, Piece.toChars]
  rw [Scope.fst_written, Scope.snd_written, String.toList_append, String.toList_append,
    List.append_assoc]
  rfl

theorem not_mem_key (c : Char) (reserved : Percent.isUnreserved c = false) (other : c ≠ '%')
    (scope : Scope) (field : String) (v : Value) : c ∉ (scope.written field v).1 := by
  rw [Scope.fst_written]
  exact Percent.not_mem_encode c reserved other (scope.key field).toText

theorem not_mem_encode (c : Char) (reserved : Percent.isUnreserved c = false) (other : c ≠ '%')
    (comma : c ≠ ',') (v : Value) : c ∉ v.encode.toList := by
  simp only [Value.encode]
  rw [Text.toList_joinText, List.map_map]
  induction v.scalars with
  | nil => exact List.not_mem_nil
  | cons s ss ih =>
      have hs := Percent.not_mem_encode c reserved other s.toText
      by_cases hss : ss = []
      · subst hss
        exact hs
      · have hne : ss.map (String.toList ∘ fun s => Percent.encode s.toText) ≠ [] := by simp [hss]
        rw [List.map_cons, Text.join_cons _ hne]
        intro hm
        rcases List.mem_append.mp hm with hm | hm
        · rcases List.mem_append.mp hm with hm | hm
          · exact hs hm
          · exact comma (List.mem_singleton.mp hm)
        · exact ih hm

theorem sound_toChars {p : Piece} (key : '&' ∉ p.1) (value : '&' ∉ p.2)
    (mark : p.1.head? ≠ some '?') : Piece.Sound p.toChars where
  nonempty := by simp [Piece.toChars]
  unmarked := by
    simp only [Piece.toChars]
    cases hp : p.1 with
    | nil => simp
    | cons c cs =>
        rw [hp] at mark
        exact mark
  whole := by
    simp only [Piece.toChars]
    intro hm
    rcases List.mem_append.mp hm with hm | hm
    · exact key hm
    · rcases List.mem_cons.mp hm with hm | hm
      · exact absurd hm (by decide)
      · exact value hm

theorem ofChars_toChars {p : Piece} (h : '=' ∉ p.1) : Piece.ofChars p.toChars = p := by
  simp only [Piece.ofChars, Piece.toChars]
  rw [Text.splitFirst_append h]
  rfl

theorem Piece.not_mem_key (cs : List Char) : '=' ∉ (ofChars cs).1 := by
  simp only [ofChars]
  rcases (Text.splitFirst_cases cs : ('=' ∉ cs ∧ _) ∨ _) with ⟨hno, hcut⟩ | ⟨k, v, hk, rfl, hcut⟩
  · rw [hcut]
    exact hno
  · rw [hcut]
    exact hk

theorem sound_written (scope : Scope) (field : String) (v : Value) :
    Piece.Sound (scope.written field v).toChars := by
  refine sound_toChars (not_mem_key '&' rfl (by decide) scope field v) ?_ ?_
  · rw [Scope.snd_written]
    exact not_mem_encode '&' rfl (by decide) (by decide) v
  · intro hm
    exact not_mem_key '?' rfl (by decide) scope field v (List.mem_of_mem_head? hm)

theorem encode_eq (scope : Scope) (params : Params) :
    encode scope params
      = String.ofList (Text.join ['&'] ((scope.writtenAll params).map Piece.toChars)) := by
  simp only [encode, Scope.writtenAll, Text.joinText]
  rw [List.map_map, List.map_map]
  have hmap : (scope.deviations params).map
        (String.toList ∘ fun e => writeEntry (scope.key e.1).toText e.2)
      = (scope.deviations params).map (Piece.toChars ∘ fun e => scope.written e.1 e.2) :=
    List.map_congr_left fun e _ => toList_writeEntry scope e.1 e.2
  rw [hmap]
  rfl

theorem toList_encode (scope : Scope) (params : Params) :
    (encode scope params).toList = Text.join ['&'] ((scope.writtenAll params).map Piece.toChars) := by
  rw [encode_eq]
  exact String.toList_ofList

theorem sound_of_mem_writtenAll {scope : Scope} {params : Params} :
    ∀ q ∈ (scope.writtenAll params).map Piece.toChars, Piece.Sound q := by
  intro q hq
  obtain ⟨p, hp, hq⟩ := List.mem_map.mp hq
  obtain ⟨e, -, hp⟩ := List.mem_map.mp hp
  rw [← hq, ← hp]
  exact sound_written scope e.1 e.2

theorem map_ofChars_writtenAll (scope : Scope) (params : Params) :
    ((scope.writtenAll params).map Piece.toChars).map Piece.ofChars = scope.writtenAll params := by
  simp only [Scope.writtenAll]
  rw [List.map_map, List.map_map]
  apply List.map_congr_left
  intro e _
  exact ofChars_toChars (not_mem_key '=' rfl (by decide) scope e.1 e.2)

theorem pieces_encode (scope : Scope) (params : Params) :
    pieces (encode scope params) = scope.writtenAll params := by
  rw [encode_eq, pieces_join sound_of_mem_writtenAll, map_ofChars_writtenAll]

theorem isEmpty_encode {scope : Scope} {params : Params} (h : scope.writtenAll params ≠ []) :
    (encode scope params).isEmpty = false := by
  cases he : (encode scope params).isEmpty with
  | false => rfl
  | true =>
      have hpieces := pieces_encode scope params
      rw [String.isEmpty_iff.mp he] at hpieces
      exact absurd hpieces.symm h

/-! ## Updates -/

section Updates

variable {search : String}

/-- A piece that was cut is not cut again when it is written with its `=`. -/
theorem whole_of_mem_pieces {p : Piece} (hp : p ∈ pieces search) :
    (p.toChars ≠ [] ∧ '&' ∉ p.toChars) ∧ '=' ∉ p.1 := by
  obtain ⟨cs, hcs, rfl⟩ := List.mem_map.mp hp
  obtain ⟨hcut, hne⟩ := List.mem_filter.mp hcs
  have hwhole : '&' ∉ cs := Text.not_mem_of_mem_splitAll hcut
  have hnonempty : cs ≠ [] := fun he => by simp [he] at hne
  refine ⟨?_, Piece.not_mem_key cs⟩
  simp only [Piece.ofChars]
  rcases (Text.splitFirst_cases cs : ('=' ∉ cs ∧ _) ∨ _) with ⟨-, hcut'⟩ | ⟨k, v, -, rfl, hcut'⟩
  · rw [hcut']
    exact ⟨by simp [Piece.toChars], by simp [Piece.toChars, hwhole]⟩
  · rw [hcut']
    exact ⟨hnonempty, hwhole⟩

theorem unmarked_of_mem_pieces (h : Plain search) {p : Piece} (hp : p ∈ pieces search) :
    p.toChars.head? ≠ some '?' := by
  obtain ⟨cs, hcs, rfl⟩ := List.mem_map.mp hp
  have hmark : cs.head? ≠ some '?' := h cs (List.mem_filter.mp hcs).1
  simp only [Piece.ofChars]
  rcases (Text.splitFirst_cases cs : ('=' ∉ cs ∧ _) ∨ _) with ⟨-, hcut⟩ | ⟨k, v, -, rfl, hcut⟩
  · rw [hcut]
    cases cs with
    | nil => simp [Piece.toChars]
    | cons c cs => exact hmark
  · rw [hcut]
    exact hmark

theorem frontUnmarked_of_plain (scope : Scope) (h : Plain search) : scope.FrontUnmarked search :=
  fun _ hp => unmarked_of_mem_pieces h (List.mem_filter.mp (List.mem_of_mem_head? hp)).1

theorem whole_of_mem_foreign (scope : Scope) (search : String) :
    ∀ q ∈ (scope.foreign search).map Piece.toChars, q ≠ [] ∧ '&' ∉ q := by
  intro q hq
  obtain ⟨p, hp, rfl⟩ := List.mem_map.mp hq
  exact (whole_of_mem_pieces (List.mem_filter.mp hp).1).1

theorem sound_of_mem_foreign (scope : Scope) (h : Plain search) :
    ∀ q ∈ (scope.foreign search).map Piece.toChars, Piece.Sound q := by
  intro q hq
  obtain ⟨hne, hwhole⟩ := whole_of_mem_foreign scope search q hq
  obtain ⟨p, hp, rfl⟩ := List.mem_map.mp hq
  exact ⟨hne, unmarked_of_mem_pieces h (List.mem_filter.mp hp).1, hwhole⟩

theorem map_ofChars_foreign (scope : Scope) (search : String) :
    ((scope.foreign search).map Piece.toChars).map Piece.ofChars = scope.foreign search := by
  rw [List.map_map]
  have hid : ∀ p ∈ scope.foreign search, (Piece.ofChars ∘ Piece.toChars) p = p := fun p hp =>
    ofChars_toChars (whole_of_mem_pieces (List.mem_filter.mp hp).1).2
  rw [List.map_congr_left hid]
  exact List.map_id _

/-- The texts of an updated search string: those of other lists, then those that are written. -/
theorem update_eq (scope : Scope) (search : String) (params : Params) :
    update scope search params = String.ofList (Text.join ['&']
      ((scope.foreign search).map Piece.toChars ++ (scope.writtenAll params).map Piece.toChars)) := by
  have hothers : ((scope.foreign search).map fun p => String.ofList p.toChars).map String.toList
      = (scope.foreign search).map Piece.toChars := by
    rw [List.map_map]
    exact List.map_congr_left fun p _ => String.toList_ofList
  simp only [update, Text.joinText]
  by_cases hw : scope.writtenAll params = []
  · have hown : (encode scope params).isEmpty = true := by
      rw [encode_eq, hw]
      rfl
    simp only [hown, if_true]
    rw [hothers, hw, List.map_nil, List.append_nil]
    rfl
  · have hown : (encode scope params).isEmpty = false := isEmpty_encode hw
    have hne : (scope.writtenAll params).map Piece.toChars ≠ [] := by simp [hw]
    simp only [hown, Bool.false_eq_true, if_false]
    rw [List.map_append, hothers, List.map_singleton, toList_encode,
      ← Text.join_append_join ['&'] _ hne]
    rfl

/-- An update keeps the pieces of other lists and writes the own ones behind them, if the piece that
it puts in front does not begin with a question mark. -/
theorem pieces_update_of_front {scope : Scope} (h : scope.FrontUnmarked search) (params : Params) :
    pieces (update scope search params) = scope.foreign search ++ scope.writtenAll params := by
  have hwhole : ∀ q ∈ (scope.foreign search).map Piece.toChars
      ++ (scope.writtenAll params).map Piece.toChars, q ≠ [] ∧ '&' ∉ q := fun q hq =>
    (List.mem_append.mp hq).elim (whole_of_mem_foreign scope search q)
      (whole_of_sound sound_of_mem_writtenAll q)
  have hfront : ∀ q ∈ ((scope.foreign search).map Piece.toChars
      ++ (scope.writtenAll params).map Piece.toChars).head?, q.head? ≠ some '?' := by
    cases hforeign : scope.foreign search with
    | nil => exact front_of_sound sound_of_mem_writtenAll
    | cons p ps =>
        intro q hq
        cases hq
        exact h p (by rw [hforeign]; rfl)
  rw [update_eq, pieces_join_front hwhole hfront, List.map_append, map_ofChars_foreign scope search,
    map_ofChars_writtenAll]

theorem pieces_update (scope : Scope) (h : Plain search) (params : Params) :
    pieces (update scope search params) = scope.foreign search ++ scope.writtenAll params :=
  pieces_update_of_front (frontUnmarked_of_plain scope h) params

theorem plain_update (scope : Scope) (h : Plain search) (params : Params) :
    Plain (update scope search params) := by
  rw [update_eq]
  exact plain_join fun q hq =>
    (List.mem_append.mp hq).elim (sound_of_mem_foreign scope h q) (sound_of_mem_writtenAll q)

/-! ## Owners -/

theorem own_update_of_front {scope : Scope} (h : scope.FrontUnmarked search) (params : Params) :
    scope.own (update scope search params) = scope.own (encode scope params) := by
  simp only [Scope.own]
  rw [pieces_update_of_front h, pieces_encode, List.filter_append]
  have hforeign : (scope.foreign search).filter (fun p => (scope.field? p).isSome) = [] := by
    apply List.filter_eq_nil_iff.mpr
    intro p hp
    have hnone := (List.mem_filter.mp hp).2
    cases hf : scope.field? p with
    | none => simp
    | some f => simp [hf] at hnone
  rw [hforeign, List.nil_append]

theorem own_update (scope : Scope) (h : Plain search) (params : Params) :
    scope.own (update scope search params) = scope.own (encode scope params) :=
  own_update_of_front (frontUnmarked_of_plain scope h) params

theorem own_update_of_ne {scope other : Scope} (hne : scope.owner ≠ other.owner) (h : Plain search)
    (params : Params) : other.own (update scope search params) = other.own search := by
  simp only [Scope.own]
  rw [pieces_update scope h, List.filter_append]
  have hwritten : (scope.writtenAll params).filter (fun p => (other.field? p).isSome) = [] := by
    apply List.filter_eq_nil_iff.mpr
    intro p hp
    obtain ⟨e, -, he⟩ := List.mem_map.mp hp
    rw [← he, Scope.field?_written, if_neg hne]
    simp
  rw [hwritten, List.append_nil]
  simp only [Scope.foreign]
  rw [List.filter_filter]
  apply List.filter_congr
  intro p _
  cases hother : other.field? p with
  | none => rfl
  | some f =>
      have hnone : scope.field? p = none := Scope.field?_eq_none_of_ne hne hother
      simp [hnone]

end Updates

end AdminConsole.Query
