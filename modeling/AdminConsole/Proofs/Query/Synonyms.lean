/-
# `Proofs.Query.Synonyms` — search strings that say the same

A list reads a search string piece by piece and keeps a table, in which scalars grow
into sequences.  What it ends with needs no table to be told: a field has the parts
of the values of all pieces whose decoded key names it, in their order, each decoded
by itself (`said_eq_flatMap`), and the default if no piece names it.

So one and the same query has many search strings.  Pieces with different keys may
change places, pieces of other lists may come and go, and two values of a key may be
written as one with a comma between them.  Each of these leaves what is said about
every single field as it is (`Scope.Rewords.said_eq`), and that is all that a query
depends on.

The changes are made to rows of texts.  A row stands for a search string, with any
number of question marks in front, as long as no text in it begins with a question
mark itself (`texts_searchOf`); and every plain search string comes from such a row
(`exists_searchOf`).
-/
import AdminConsole.Proofs.Query.Writing

namespace AdminConsole.Query

/-- The texts between the `&` of a search string, after the question marks in front of all.  Empty ones
do not count. -/
def texts (search : String) : List (List Char) :=
  (Text.splitAll '&' (search.toList.dropWhile (· == '?'))).filter fun w => !w.isEmpty

/-- The search string with some question marks in front and a row of texts between `&`. -/
def searchOf (marks : Nat) (ws : List (List Char)) : String :=
  String.ofList (List.replicate marks '?' ++ Text.join ['&'] ws)

/-- Texts that stay where they are cut, none of which begins with a question mark. -/
def PlainRow (ws : List (List Char)) : Prop := ∀ w ∈ ws, '&' ∉ w ∧ w.head? ≠ some '?'

instance (ws : List (List Char)) : Decidable (PlainRow ws) :=
  inferInstanceAs (Decidable (∀ w ∈ ws, '&' ∉ w ∧ w.head? ≠ some '?'))

/-- The decoded key of a text between two `&`. -/
def decodedKey (w : List Char) : List Char := Percent.decode (Piece.ofChars w).1

/-- Two texts in one: the key of the first, and a comma between the two values. -/
def fused (v w : List Char) : List Char :=
  Piece.toChars ((Piece.ofChars v).1, (Piece.ofChars v).2 ++ ',' :: (Piece.ofChars w).2)

/-- A change of one place in a row of texts that a list does not notice. -/
inductive Scope.Rewords (scope : Scope) : List (List Char) → List (List Char) → Prop
  | swap (front back) {v w} : decodedKey v ≠ decodedKey w →
      Rewords scope (front ++ v :: w :: back) (front ++ w :: v :: back)
  | insert (front back) {w} : scope.field? (Piece.ofChars w) = none →
      Rewords scope (front ++ back) (front ++ w :: back)
  | delete (front back) {w} : scope.field? (Piece.ofChars w) = none →
      Rewords scope (front ++ w :: back) (front ++ back)
  | fuse (front back) {v w} : decodedKey v = decodedKey w →
      Rewords scope (front ++ v :: w :: back) (front ++ fused v w :: back)

/-- A piece for a field: its decoded key is the namespace and the field with a dot between them, and the
field has a name. -/
def Scope.Names (scope : Scope) (field : String) (p : Piece) : Prop :=
  field ≠ "" ∧ Percent.decode p.1 = (scope.key field).toText.toList

instance (scope : Scope) (field : String) (p : Piece) : Decidable (scope.Names field p) :=
  inferInstanceAs (Decidable (field ≠ "" ∧ Percent.decode p.1 = (scope.key field).toText.toList))

/-- The pieces of a search string for a field. -/
def Scope.piecesFor (scope : Scope) (field search : String) : List Piece :=
  (pieces search).filter (scope.Names field ·)

/-- The parts of the value of a piece, each decoded by itself. -/
def Scope.parts (scope : Scope) (field : String) (p : Piece) : List Scalar :=
  (Text.splitAll ',' p.2).map (scope.readScalar field)

variable {scope : Scope} {field : String}

/-! ## What is said about a field -/

theorem Key.eq_of_ofChars? {cs : List Char} {k : Key} (h : ofChars? cs = some k) :
    cs = k.toText.toList ∧ k.field ≠ "" := by
  simp only [ofChars?] at h
  rcases (Text.splitFirst_cases cs : ('.' ∉ cs ∧ _) ∨ _) with ⟨-, hcut⟩ | ⟨p, r, -, rfl, hcut⟩
  · rw [hcut] at h
    cases h
  · rw [hcut] at h
    simp only at h
    split at h
    · cases h
    next hnonempty =>
        cases h
        simp only [Bool.or_eq_true, List.isEmpty_iff, not_or] at hnonempty
        exact ⟨by simp [toText], fun he => hnonempty.2 (String.ofList_eq_empty_iff.mp he)⟩

theorem Scope.field?_eq_some_iff {p : Piece} :
    scope.field? p = some field ↔ scope.Names field p := by
  simp only [field?, Piece.key?]
  constructor
  · intro h
    cases hk : Key.ofChars? (Percent.decode p.1) with
    | none => simp [hk] at h
    | some k =>
        obtain ⟨htext, hfield⟩ := Key.eq_of_ofChars? hk
        simp only [hk, owns, beq_iff_eq] at h
        split at h
        next howner =>
            cases h
            exact ⟨hfield, by rw [htext, key, ← howner]⟩
        next => cases h
  · rintro ⟨hfield, htext⟩
    rw [htext, Key.ofChars?_key, if_neg hfield]
    simp [owns, key]

theorem said_eq_flatMap (scope : Scope) (field search : String) :
    scope.said field (pieces search)
      = (scope.piecesFor field search).flatMap (scope.parts field) := by
  simp only [Scope.said, Scope.piecesFor]
  induction pieces search with
  | nil => rfl
  | cons p ps ih =>
      rw [List.flatMap_cons, ih]
      by_cases hp : scope.Names field p
      · rw [Scope.saidIn_of_field? (Scope.field?_eq_some_iff.mpr hp),
          List.filter_cons_of_pos (by simpa using hp), List.flatMap_cons]
        rfl
      · rw [Scope.saidIn_of_ne (mt Scope.field?_eq_some_iff.mp hp),
          List.filter_cons_of_neg (by simpa using hp), List.nil_append]

theorem Value.ofParts_eq_one_iff {ss : List Scalar} :
    (∃ s, ofParts ss = .one s) ↔ ss.length = 1 := by
  rw [List.length_eq_one_iff]
  constructor
  · rintro ⟨s, hs⟩
    refine ⟨s, ?_⟩
    rw [← scalars_ofParts ss, hs]
    rfl
  · rintro ⟨s, rfl⟩
    exact ⟨s, rfl⟩

/-! ## Changes -/

theorem said_cons (w : List Char) (ws : List (List Char)) :
    scope.said field ((w :: ws).map Piece.ofChars)
      = scope.saidIn field (Piece.ofChars w) ++ scope.said field (ws.map Piece.ofChars) := rfl

theorem said_append (ws ws' : List (List Char)) :
    scope.said field ((ws ++ ws').map Piece.ofChars)
      = scope.said field (ws.map Piece.ofChars) ++ scope.said field (ws'.map Piece.ofChars) := by
  simp only [Scope.said]
  rw [List.map_append, List.flatMap_append]

theorem field?_congr {p q : Piece} (h : Percent.decode p.1 = Percent.decode q.1) :
    scope.field? p = scope.field? q := by
  simp only [Scope.field?, Piece.key?]
  rw [h]

/-- Pieces with different keys are not about the same field. -/
theorem saidIn_eq_nil_or {v w : List Char} (h : decodedKey v ≠ decodedKey w) :
    scope.saidIn field (Piece.ofChars v) = [] ∨ scope.saidIn field (Piece.ofChars w) = [] := by
  by_cases hv : scope.field? (Piece.ofChars v) = some field
  · refine .inr (Scope.saidIn_of_ne fun hw => h ?_)
    have hkey := (Scope.field?_eq_some_iff.mp hv).2
    exact hkey.trans (Scope.field?_eq_some_iff.mp hw).2.symm
  · exact .inl (Scope.saidIn_of_ne hv)

theorem saidIn_fused {v w : List Char} (h : decodedKey v = decodedKey w) :
    scope.saidIn field (Piece.ofChars (fused v w))
      = scope.saidIn field (Piece.ofChars v) ++ scope.saidIn field (Piece.ofChars w) := by
  have hpiece : Piece.ofChars (fused v w)
      = ((Piece.ofChars v).1, (Piece.ofChars v).2 ++ ',' :: (Piece.ofChars w).2) :=
    ofChars_toChars (Piece.not_mem_key v)
  have hfused : scope.field? (Piece.ofChars (fused v w)) = scope.field? (Piece.ofChars v) := by
    rw [hpiece]
    exact field?_congr rfl
  have hsame : scope.field? (Piece.ofChars v) = scope.field? (Piece.ofChars w) := field?_congr h
  by_cases hv : scope.field? (Piece.ofChars v) = some field
  · rw [Scope.saidIn_of_field? (hfused.trans hv), Scope.saidIn_of_field? hv,
      Scope.saidIn_of_field? (hsame.symm.trans hv), hpiece, Text.splitAll_append_sep, List.map_append]
  · rw [Scope.saidIn_of_ne (hfused ▸ hv), Scope.saidIn_of_ne hv, Scope.saidIn_of_ne (hsame ▸ hv)]
    rfl

theorem Scope.Rewords.said_eq {ws ws' : List (List Char)} (h : scope.Rewords ws ws') (field : String) :
    scope.said field (ws.map Piece.ofChars) = scope.said field (ws'.map Piece.ofChars) := by
  cases h with
  | swap front back hkeys =>
      rw [said_append, said_append, said_cons, said_cons, said_cons, said_cons]
      rcases saidIn_eq_nil_or hkeys with hnil | hnil
      · rw [hnil, List.nil_append, List.nil_append]
      · rw [hnil, List.nil_append, List.nil_append]
  | insert front back hforeign =>
      rw [said_append, said_append, said_cons, saidIn_of_foreign hforeign, List.nil_append]
  | delete front back hforeign =>
      rw [said_append, said_append, said_cons, saidIn_of_foreign hforeign, List.nil_append]
  | fuse front back hkeys =>
      rw [said_append, said_append, said_cons, said_cons, said_cons, saidIn_fused hkeys,
        List.append_assoc]

/-! ## Rows and search strings -/

theorem texts_searchOf (marks : Nat) {ws : List (List Char)} (plain : PlainRow ws) :
    texts (searchOf marks ws) = ws.filter fun w => !w.isEmpty := by
  have front : ∀ w ∈ ws.head?, w.head? ≠ some '?' := fun w hw =>
    (plain w (List.mem_of_mem_head? hw)).2
  have hmarks : ∀ c ∈ List.replicate marks '?', (c == '?') = true := fun c hc => by
    rw [List.eq_of_mem_replicate hc]
    rfl
  simp only [texts, searchOf]
  rw [String.toList_ofList, List.dropWhile_append_of_pos hmarks, dropWhile_join front]
  by_cases hne : ws = []
  · subst hne
    rfl
  · rw [Text.splitAll_join hne fun w hw => (plain w hw).1]

theorem exists_searchOf {search : String} (plain : Plain search) :
    ∃ marks ws, PlainRow ws ∧ searchOf marks ws = search := by
  have hmarks : search.toList.takeWhile (· == '?')
      = List.replicate (search.toList.takeWhile (· == '?')).length '?' := by
    apply List.eq_replicate_of_mem
    intro c hc
    have hmark := List.all_eq_true.mp List.all_takeWhile c hc
    exact beq_iff_eq.mp hmark
  refine ⟨(search.toList.takeWhile (· == '?')).length,
    Text.splitAll '&' (search.toList.dropWhile (· == '?')),
    fun w hw => ⟨Text.not_mem_of_mem_splitAll hw, plain w hw⟩, ?_⟩
  simp only [searchOf]
  rw [← hmarks, Text.join_splitAll, List.takeWhile_append_dropWhile, String.ofList_toList]

/-- **Repeated and comma-joined values are one language.**  A field has the parts of all pieces that
name it, one of them standing for itself, and otherwise its default.  So a plain search string reads as
before when neighbours with different keys change places, when a piece of another list is put in or left
out, and when neighbours with one key are fused. -/
theorem synonyms_read_alike (scope : Scope) :
    (∀ search field,
      (scope.piecesFor field search = [] →
        (parse scope search).get? field = scope.defaults.get? field) ∧
      (scope.piecesFor field search ≠ [] → ∃ v, (parse scope search).get? field = some v ∧
        v.scalars = (scope.piecesFor field search).flatMap (scope.parts field) ∧
        ((∃ s, v = .one s) ↔ v.scalars.length = 1))) ∧
    (∀ marks marks' ws ws', PlainRow ws → PlainRow ws' →
      scope.Rewords (ws.filter fun w => !w.isEmpty) (ws'.filter fun w => !w.isEmpty) →
      parse scope (searchOf marks ws) = parse scope (searchOf marks' ws')) ∧
    ∀ search, Plain search → ∃ marks ws, PlainRow ws ∧ searchOf marks ws = search := by
  refine ⟨fun search field => ⟨fun hnone => ?_, fun hsome => ?_⟩, ?_, fun _ => exists_searchOf⟩
  · rw [get?_parse, said_eq_flatMap, hnone]
    rfl
  · have hne : (scope.piecesFor field search).flatMap (scope.parts field) ≠ [] := by
      obtain ⟨p, hp⟩ := List.exists_mem_of_ne_nil _ hsome
      have hfield := Scope.field?_eq_some_iff.mpr (of_decide_eq_true (List.mem_filter.mp hp).2)
      intro he
      apply Scope.saidIn_ne_nil hfield
      rw [Scope.saidIn_of_field? hfield]
      exact List.flatMap_eq_nil_iff.mp he p hp
    refine ⟨Value.ofParts ((scope.piecesFor field search).flatMap (scope.parts field)), ?_,
      Value.scalars_ofParts _, ?_⟩
    · rw [get?_parse, said_eq_flatMap, Value.ofScalars?_of_ne_nil hne]
      rfl
    · rw [Value.scalars_ofParts]
      exact Value.ofParts_eq_one_iff
  · intro marks marks' ws ws' plain plain' hwords
    apply parse_congr_said
    intro field
    have hsaid := hwords.said_eq field
    rw [← texts_searchOf marks plain, ← texts_searchOf marks' plain'] at hsaid
    exact hsaid

/-- A key that is the same only when decoded, an encoded comma, and an empty text between neighbours. -/
theorem synonyms_read_alike_teams :
    let scope : Scope := ⟨"team", Dict.ofList [("page", .one (.int 1))], [pageField], by decide⟩
    let row := ["team.page=2%2C,+3", "other=1", "", "team.p%61ge=7"].map String.toList
    let swapped := ["team.page=2%2C,+3", "team.p%61ge=7", "other=1"].map String.toList
    let joined := ["team.page=2%2C,+3,7", "other=1"].map String.toList
    let alone := ["team.page=2%2C,+3,7"].map String.toList
    searchOf 1 row = "?team.page=2%2C,+3&other=1&&team.p%61ge=7" ∧
      parse scope (searchOf 1 row) = parse scope (searchOf 0 swapped) ∧
      parse scope (searchOf 0 swapped) = parse scope (searchOf 0 joined) ∧
      parse scope (searchOf 0 joined) = parse scope (searchOf 2 alone) ∧
      (∃ v, (parse scope (searchOf 1 row)).get? "page" = some v ∧
        v.scalars = [.text "2,", .int 3, .int 7]) ∧
      (parse scope (searchOf 2 alone)).get? "other" = none := by
  intro scope row swapped joined alone
  obtain ⟨hread, hreword, -⟩ := synonyms_read_alike scope
  have hrow : PlainRow row := by decide
  have hswapped : PlainRow swapped := by decide
  have hjoined : PlainRow joined := by decide
  have halone : PlainRow alone := by decide
  refine ⟨by decide, ?_, ?_, ?_, ?_, ?_⟩
  · exact hreword 1 0 row swapped hrow hswapped
      (.swap ["team.page=2%2C,+3".toList] [] (by decide +kernel))
  · exact hreword 0 0 swapped joined hswapped hjoined
      (.fuse [] ["other=1".toList] (by decide +kernel))
  · exact hreword 0 2 joined alone hjoined halone
      (.delete ["team.page=2%2C,+3,7".toList] [] (by decide +kernel))
  · obtain ⟨v, hv, hscalars, -⟩ := (hread (searchOf 1 row) "page").2 (by decide +kernel)
    exact ⟨v, hv, hscalars.trans (by decide +kernel)⟩
  · exact (hread (searchOf 2 alone) "other").1 (by decide +kernel)

end AdminConsole.Query
