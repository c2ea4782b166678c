/-
# `Proofs.Query.Rewriting` — a rewrite forgets the one before it

An update is determined by what it keeps and what it writes, so a rewrite that
keeps the same pieces has the same result, whatever was written before.  The
pieces of other lists are kept by every rewrite (`foreign_update`), and a row of
rewrites ends as if only the last of them had been made (`update_foldl_update`).

Two things are read differently once they have been written.  A piece that an
update puts in front loses the question marks it begins with, and a piece for the
field without a name is nobody's, so that no later rewrite takes it away again.
The first is a matter of the search string (`FrontUnmarked`), the second of the
params (`Named`).
-/
import AdminConsole.Proofs.Query.RoundTrip

namespace AdminConsole.Query

/-- Nothing is to be written for the field without a name. -/
def Scope.Named (scope : Scope) (params : Params) : Prop :=
  ∀ e ∈ scope.deviations params, e.1 ≠ ""

instance (scope : Scope) (params : Params) : Decidable (scope.Named params) :=
  inferInstanceAs (Decidable (∀ e ∈ scope.deviations params, e.1 ≠ ""))

/-- What is written for a field, if anything is. -/
def Scope.spelling? (scope : Scope) (params : Params) (field : String) : Option String :=
  ((params.get? field).filter fun v => !v.isEmpty && !scope.isDefault field v).map Value.encode

variable {scope : Scope} {search : String} {params : Params} {field : String}

/-! ## What an update depends on -/

theorem update_of_foreign_eq {search' : String} (h : scope.foreign search = scope.foreign search')
    (params : Params) : update scope search params = update scope search' params := by
  simp only [update]
  rw [h]

theorem update_of_encode_eq {params' : Params} (h : encode scope params = encode scope params')
    (search : String) : update scope search params = update scope search params' := by
  simp only [update]
  rw [h]

theorem encode_of_spelling?_eq {params' : Params}
    (h : ∀ field, scope.spelling? params field = scope.spelling? params' field) :
    encode scope params = encode scope params' := by
  have hascending : ∀ params : Params, Entries.Ascending
      ((scope.deviations params).map fun e => (e.1, e.2.encode)) := fun params =>
    Entries.ascending_map (params.ascending.filter _) Value.encode
  have hspellings : (scope.deviations params).map (fun e => (e.1, e.2.encode))
      = (scope.deviations params').map fun e => (e.1, e.2.encode) := by
    apply Entries.ext_get? (hascending params) (hascending params')
    intro field
    rw [Entries.get?_map, Entries.get?_map, get?_deviations, get?_deviations]
    exact h field
  have hentries : ∀ params : Params, encode scope params = Text.joinText "&"
      (((scope.deviations params).map fun e => (e.1, e.2.encode)).map fun e =>
        Percent.encode (scope.key e.1).toText ++ "=" ++ e.2) := by
    intro params
    rw [List.map_map]
    rfl
  rw [hentries, hentries, hspellings]

/-! ## What is read is written again -/

theorem spelling?_of_default (h : params.get? field = scope.defaults.get? field) :
    scope.spelling? params field = none := by
  simp only [Scope.spelling?]
  rw [h]
  cases hd : scope.defaults.get? field with
  | none => rfl
  | some d =>
      have hdefault : scope.isDefault field d = true := by
        simp only [Scope.isDefault]
        rw [hd]
        exact beq_self_eq_true _
      simp [hdefault]

theorem spelling?_of_isDefault {v : Value} (h : params.get? field = some v)
    (hv : scope.isDefault field v = true) : scope.spelling? params field = none := by
  simp only [Scope.spelling?]
  rw [h]
  simp [hv]

/-- A value spelled like the default of its field comes back as the default. -/
theorem get?_parse_encode_of_isDefault {v : Value} (h : params.get? field = some v)
    (hv : scope.isDefault field v = true) :
    (parse scope (encode scope params)).get? field = scope.defaults.get? field := by
  apply get?_parse_encode_of_not_deviates
  intro w hw hdeviates
  rw [h] at hw
  cases hw
  have := isDefault_eq_false_iff.mpr hdeviates.differs
  rw [hv] at this
  cases this

theorem Legible.spelling?_parse_encode (h : Legible scope params field) :
    scope.spelling? (parse scope (encode scope params)) field = scope.spelling? params field := by
  cases hv : params.get? field with
  | none =>
      have hdefault : params.get? field = scope.defaults.get? field := hv.trans (h.filled hv).symm
      rw [spelling?_of_default hdefault]
      apply spelling?_of_default
      apply get?_parse_encode_of_not_deviates
      intro v h
      rw [hv] at h
      cases h
  | some v =>
      cases hdefault : scope.isDefault field v with
      | true =>
          rw [spelling?_of_isDefault hv hdefault]
          exact spelling?_of_default (get?_parse_encode_of_isDefault hv hdefault)
      | false =>
          rcases h.value hv with ⟨hname, hcanon⟩ | hd
          · have hdeviates : scope.Deviates field v :=
              ⟨hname, hcanon.nonempty, isDefault_eq_false_iff.mp hdefault⟩
            have hback := get?_parse_encode_of_deviates hv hdeviates
            rw [Value.normal_eq_self hcanon] at hback
            simp only [Scope.spelling?]
            rw [hback, hv]
          · exact absurd rfl (isDefault_eq_false_iff.mp hdefault v hd)

/-! ## What a rewrite keeps -/

theorem Legible.named (h : Legible scope params "") : scope.Named params := by
  intro e he hempty
  obtain ⟨hmem, hkept⟩ := List.mem_filter.mp he
  have hv : params.get? "" = some e.2 := by
    rw [← hempty]
    exact Dict.get?_eq_some_iff.mpr hmem
  rcases h.value hv with ⟨hne, -⟩ | hd
  · exact hne rfl
  · have hdefault : scope.isDefault e.1 e.2 = true := by
      simp only [Scope.isDefault]
      rw [hempty, hd]
      exact beq_self_eq_true _
    simp [hdefault] at hkept

theorem filter_isNone_writtenAll (named : scope.Named params) :
    (scope.writtenAll params).filter (fun p => (scope.field? p).isNone) = [] := by
  apply List.filter_eq_nil_iff.mpr
  intro p hp
  obtain ⟨e, he, rfl⟩ := List.mem_map.mp hp
  rw [Scope.field?_written, if_neg (named e he), if_pos rfl]
  simp

/-- A rewrite keeps the pieces of other lists. -/
theorem foreign_update (front : scope.FrontUnmarked search) (named : scope.Named params) :
    scope.foreign (update scope search params) = scope.foreign search := by
  have hkept : (scope.foreign search).filter (fun p => (scope.field? p).isNone)
      = scope.foreign search :=
    List.filter_eq_self.mpr fun p hp => (List.mem_filter.mp hp).2
  have hsplit : scope.foreign (update scope search params)
      = (scope.foreign search ++ scope.writtenAll params).filter
          (fun p => (scope.field? p).isNone) := by
    rw [← pieces_update_of_front front params]
    rfl
  rw [hsplit, List.filter_append, hkept, filter_isNone_writtenAll named, List.append_nil]

theorem frontUnmarked_update (front : scope.FrontUnmarked search) (named : scope.Named params) :
    scope.FrontUnmarked (update scope search params) := by
  simp only [Scope.FrontUnmarked]
  rw [foreign_update front named]
  exact front

theorem foreign_foldl_update {rewrites : List Params} (front : scope.FrontUnmarked search)
    (named : ∀ params ∈ rewrites, scope.Named params) :
    scope.foreign (rewrites.foldl (update scope) search) = scope.foreign search := by
  induction rewrites generalizing search with
  | nil => rfl
  | cons params rewrites ih =>
      obtain ⟨hparams, hrest⟩ := List.forall_mem_cons.mp named
      rw [List.foldl_cons, ih (frontUnmarked_update front hparams) hrest,
        foreign_update front hparams]

theorem update_foldl_update {rewrites : List Params} (front : scope.FrontUnmarked search)
    (named : ∀ params ∈ rewrites, scope.Named params) (last : Params) :
    update scope (rewrites.foldl (update scope) search) last = update scope search last :=
  update_of_foreign_eq (foreign_foldl_update front named) last

/-! ## Two rewrites -/

/-- **A rewrite forgets the one before it.**  What a list has written last is all that is left of its
own part, so writing the same params twice changes nothing; the first rewrite must not put a question
mark in front nor write for the field without a name. -/
theorem update_update (scope : Scope) (search : String) (first : Params)
    (front : scope.FrontUnmarked search) (named : scope.Named first) (second : Params) :
    update scope (update scope search first) second = update scope search second :=
  update_of_foreign_eq (foreign_update front named) second

/-- Marked pieces behind the first one, a bare key, a repeated own field, and an empty sequence and a
default for the field without a name. -/
theorem update_update_hosts :
    let scope : Scope := ⟨"host", Dict.ofList [("", .one (.int 0)), ("page", .one (.int 1))],
      [pageField, pageSizeField], by decide⟩
    let search := "??host.page=3&user.q&?host.page=2&host.name=a,b&host.name=c"
    let first : Params := Dict.ofList [("", .one (.text "0")), ("name", .one (.text "&?=."))]
    let second : Params := Dict.ofList [("page", .one (.int 4)), ("kind", .many [])]
    update scope (update scope search first) second = update scope search second ∧
      update scope search second = "user.q=&?host.page=2&host.page=4" := by
  intro scope search first second
  have front : scope.FrontUnmarked search := by decide +kernel
  have named : scope.Named first := by decide +kernel
  exact ⟨update_update scope search first front named second, by decide +kernel⟩

/-- A marked piece that comes to stand in front loses its mark at the next rewrite, and what is written
for the field without a name stays. -/
theorem update_update_ne :
    let scope : Scope := ⟨"host", Dict.empty, [pageField, pageSizeField], by decide⟩
    let nameless : Params := Dict.ofList [("", .one (.text "v"))]
    update scope (update scope "host.name=a&?x=2" Dict.empty) Dict.empty
        ≠ update scope "host.name=a&?x=2" Dict.empty ∧
      update scope (update scope "" nameless) Dict.empty ≠ update scope "" Dict.empty := by
  decide +kernel

end AdminConsole.Query
