/-
# `Proofs.Json.Record` — reading a record again from what it is written to

A record is written as an object with its fields in the order of declaration,
behind which may come the members that belong to no field.  To read it again it is
enough that each field is read again, since the fields are found by their names.
So reading is taken apart once, into what is found under a name (`of_required`,
`of_defaulted`), and put together once, from readers that succeed on what they find
(`decodeObject_ok`).

In between stands `Restores`: what a reader has read from some value, it reads
again from what that is written to, however that is laid out.
-/
import AdminConsole.Json.Decode
import AdminConsole.Proofs.Except
import AdminConsole.Proofs.Json.Layout

namespace AdminConsole.Json

open Entries

variable {α : Type}

/-! ## What has been read -/

namespace Members

variable {ms : Members} {name : String} {read : Json → Decoded α} {a d : α}

theorem of_required (h : ms.required name read = .ok a) :
    ∃ j, get? name ms.entries = some j ∧ read j = .ok a := by
  simp only [required] at h
  split at h
  next j hj => exact ⟨j, hj, h⟩
  next => cases h

theorem of_defaulted (h : ms.defaulted name read d = .ok a) :
    (get? name ms.entries = none ∧ a = d) ∨ ∃ j, get? name ms.entries = some j ∧ read j = .ok a := by
  simp only [defaulted] at h
  split at h
  next j hj => exact .inr ⟨j, hj, h⟩
  next hnone => exact .inl ⟨hnone, (Except.ok.inj h).symm⟩

theorem of_decodeOption {j : Json} {o : Option α} (h : decodeOption read j = .ok o) :
    (j = .null ∧ o = none) ∨ (j ≠ .null ∧ ∃ a, o = some a ∧ read j = .ok a) := by
  cases j with
  | null => exact .inl ⟨rfl, (Except.ok.inj h).symm⟩
  | _ =>
      obtain ⟨a, ha, rfl⟩ := map_eq_ok.mp h
      exact .inr ⟨nofun, a, rfl, ha⟩

theorem of_optional {o : Option α} (h : ms.optional name read = .ok o) :
    ((get? name ms.entries = none ∨ get? name ms.entries = some .null) ∧ o = none) ∨
      ∃ j a, get? name ms.entries = some j ∧ j ≠ .null ∧ o = some a ∧ read j = .ok a := by
  rcases of_defaulted h with ⟨hnone, rfl⟩ | ⟨j, hj, hread⟩
  · exact .inl ⟨.inl hnone, rfl⟩
  · rcases of_decodeOption hread with ⟨rfl, rfl⟩ | ⟨hj', a, rfl, ha⟩
    · exact .inl ⟨.inr hj, rfl⟩
    · exact .inr ⟨j, a, hj, hj', rfl, ha⟩

/-! ## What is to be read -/

theorem required_of_get? {j : Json} (h : get? name ms.entries = some j) :
    ms.required name read = read j := by
  simp only [required, h]

theorem defaulted_of_get? {j : Json} (h : get? name ms.entries = some j) :
    ms.defaulted name read d = read j := by
  simp only [defaulted, h]

variable {fields : List Field}

theorem mem_rest {e : String × Json} (h : e ∈ (ms.rest fields).entries) :
    e ∈ ms.entries ∧ e.1 ∉ fields.map Field.name := by
  have hfound := Dict.get?_eq_some_iff.mpr h
  simp only [rest] at hfound
  rw [Dict.get?_ofList] at hfound
  obtain ⟨hmem, hname⟩ := List.mem_filter.mp (List.mem_reverse.mp (mem_of_get? hfound))
  refine ⟨hmem, fun hfield => ?_⟩
  obtain ⟨f, hf, he⟩ := List.mem_map.mp hfield
  simp only [Bool.not_eq_true', List.any_eq_false, beq_iff_eq] at hname
  exact hname f hf he

theorem get?_rest_of_mem {k : String} (hk : k ∈ fields.map Field.name) :
    get? k (ms.rest fields).entries = none := by
  rw [get?_eq_none_iff]
  rintro e he rfl
  exact (mem_rest he).2 hk

theorem get?_rest_of_not_mem (h : Distinct ms.entries) {k : String}
    (hk : k ∉ fields.map Field.name) : get? k (ms.rest fields).entries = get? k ms.entries := by
  have hrest : Distinct (ms.entries.filter fun m => !(fields.any fun f => f.name == m.1)) :=
    List.Pairwise.filter _ h
  have hany : (fields.any fun f => f.name == k) = false := by
    rw [List.any_eq_false]
    intro f hf he
    exact hk (List.mem_map.mpr ⟨f, hf, beq_iff_eq.mp he⟩)
  show (ms.rest fields).get? k = _
  simp only [rest]
  rw [Dict.get?_ofList, hrest.get?_reverse]
  apply Option.ext
  intro j
  rw [hrest.get?_eq_some_iff, List.mem_filter, ← h.get?_eq_some_iff, hany]
  exact and_iff_left rfl

end Members

/-! ## Records as a whole -/

section Records

variable {record : String} {fields : List Field} {build : Members → Decoded α} {x : α}
  {t : Json → Json}

theorem of_decodeObject {v : Json} (h : decodeObject record fields build v = .ok x) :
    ∃ ms : Members, v = .object ms.entries ∧ build ms = .ok x := by
  cases v with
  | object members =>
      obtain ⟨-, -, hbuild⟩ := bind_eq_ok.mp h
      exact ⟨⟨members, .missingField⟩, rfl, hbuild⟩
  | _ => cases h

theorem of_decodeRecord {v : Json} (h : decodeRecord record fields build v = .ok x) :
    (∃ ms : Members, v = .object ms.entries ∧ build ms = .ok x) ∨
      ∃ items missing, v = .array items ∧
        build ⟨(fields.map Field.name).zip items, missing⟩ = .ok x := by
  cases v with
  | array items =>
      obtain ⟨-, -, h⟩ := bind_eq_ok.mp h
      obtain ⟨y, hy, h⟩ := bind_eq_ok.mp h
      split at h
      · cases h
      · cases h
        exact .inr ⟨items, _, rfl, hy⟩
  | object ms =>
      have hobject : decodeObject record fields build (.object ms) = .ok x := h
      exact .inl (of_decodeObject hobject)
  | _ => cases h

/-- A record that was read from a value has been built from parts of it, which a layout leaves alone
if it leaves the value alone. -/
theorem IsLayout.built (ht : IsLayout t) {v : Json} (hv : t v = v)
    (h : decodeRecord record fields build v = .ok x) :
    ∃ ms : Members, (∀ m ∈ ms.entries, t m.2 = m.2) ∧ build ms = .ok x := by
  rcases of_decodeRecord h with ⟨ms, rfl, hbuild⟩ | ⟨items, missing, rfl, hbuild⟩
  · exact ⟨ms, ht.members hv, hbuild⟩
  · refine ⟨_, fun m hm => ?_, hbuild⟩
    exact ht.items hv m.2 (List.of_mem_zip hm).2

/-- Whether what is found under the name of a field fits it. -/
def Fits (entries : List (String × Json)) (f : Field) : Prop :=
  ∀ j, get? f.name entries = some j → f.fits j = .ok ()

theorem decodeObject_ok {entries : List (String × Json)} (hdistinct : Distinct entries)
    (hfits : ∀ f ∈ fields, Fits entries f) (hbuild : build ⟨entries, .missingField⟩ = .ok x) :
    decodeObject record fields build (.object entries) = .ok x := by
  have hcheck : ∀ m ∈ entries, Field.check fields m = .ok () := by
    intro m hm
    simp only [Field.check]
    split
    next f hf =>
      have hname : f.name = m.1 :=
        beq_iff_eq.mp (List.find?_some (p := fun f : Field => f.name == m.1) hf)
      apply hfits f (List.mem_of_find?_eq_some hf)
      rw [hname]
      exact hdistinct.get?_eq_some_iff.mpr hm
    next => rfl
  show (entries.forM (Field.check fields) >>= fun _ => build ⟨entries, .missingField⟩) = _
  rw [forM_eq_ok hcheck]
  exact hbuild

theorem decodeRecord_ok {entries : List (String × Json)} (hdistinct : Distinct entries)
    (hfits : ∀ f ∈ fields, Fits entries f) (hbuild : build ⟨entries, .missingField⟩ = .ok x) :
    decodeRecord record fields build (.object entries) = .ok x := by
  show decodeObject record fields build (.object entries) = .ok x
  exact decodeObject_ok hdistinct hfits hbuild

end Records

section Fields

variable {ms : Members} {name : String} {read : Json → Decoded α} {a d : α}

theorem fits_of_required (h : ms.required name read = .ok a) : Fits ms.entries (.of name read) := by
  intro j hj
  have hfound : get? name ms.entries = some j := hj
  rw [Members.required_of_get? hfound] at h
  exact map_eq_ok.mpr ⟨a, h, rfl⟩

theorem fits_of_defaulted (h : ms.defaulted name read d = .ok a) :
    Fits ms.entries (.of name read) := by
  intro j hj
  have hfound : get? name ms.entries = some j := hj
  rw [Members.defaulted_of_get? hfound] at h
  exact map_eq_ok.mpr ⟨a, h, rfl⟩

theorem fits_nil {es : List (String × Json)} : ∀ f ∈ ([] : List Field), Fits es f :=
  List.forall_mem_nil _

theorem fits_cons {es : List (String × Json)} {f : Field} {fields : List Field} (hf : Fits es f)
    (h : ∀ f ∈ fields, Fits es f) : ∀ g ∈ f :: fields, Fits es g :=
  List.forall_mem_cons.mpr ⟨hf, h⟩

end Fields

/-! ## Reading again -/

/-- What was read is read again from what it is written to. -/
def Restores (t : Json → Json) (read : Json → Decoded α) (write : α → Json) : Prop :=
  ∀ ⦃j : Json⦄ ⦃a : α⦄, t j = j → read j = .ok a → read (t (write a)) = .ok a

theorem restores_of_exact {t : Json → Json} {read : Json → Decoded α} {write : α → Json}
    (h : ∀ j a, read j = .ok a → write a = j) : Restores t read write := by
  intro j a hj hread
  rw [h j a hread, hj]
  exact hread

section Plain

theorem exact_integer {lo hi : Int} {shape : Shape} {j : Json} {n : Int}
    (h : decodeInteger lo hi shape j = .ok n) : Json.int n = j := by
  cases j with
  | number value =>
      cases value with
      | int k =>
          simp only [decodeInteger] at h
          split at h
          · cases h
            rfl
          · cases h
      | double value => cases h
  | _ => cases h

theorem exact_int64 {j : Json} {n : Int} (h : decodeInt64 j = .ok n) : Json.int n = j :=
  exact_integer h

theorem exact_nat64 {j : Json} {n : Nat} (h : decodeNat64 j = .ok n) : Json.int n = j := by
  obtain ⟨k, hk, rfl⟩ := map_eq_ok.mp h
  have hj := exact_integer hk
  subst hj
  simp only [decodeInteger, Json.int] at hk
  split at hk
  next hbounds => rw [Int.toNat_of_nonneg hbounds.1]
  next => cases hk

theorem exact_bool {j : Json} {b : Bool} (h : decodeBool j = .ok b) : Json.bool b = j := by
  cases j with
  | bool b' => rw [Except.ok.inj h]
  | _ => cases h

theorem exact_string {j : Json} {s : String} (h : decodeString j = .ok s) : Json.string s = j := by
  cases j with
  | string s' => rw [Except.ok.inj h]
  | _ => cases h

variable {t : Json → Json}

theorem restores_int64 : Restores t decodeInt64 Json.int := restores_of_exact fun _ _ => exact_int64

theorem restores_nat64 : Restores t decodeNat64 fun n : Nat => Json.int n :=
  restores_of_exact fun _ _ => exact_nat64

theorem restores_bool : Restores t decodeBool Json.bool := restores_of_exact fun _ _ => exact_bool

theorem restores_string : Restores t decodeString Json.string :=
  restores_of_exact fun _ _ => exact_string

end Plain

/-! ### Lists and tables -/

section Nested

variable {t : Json → Json} (ht : IsLayout t) {read : Json → Decoded α} {write : α → Json}
  (hr : Restores t read write)
include ht hr

theorem restores_list : Restores t (decodeList read) fun as => .array (as.map write) := by
  intro j as hj h
  cases j with
  | array js =>
      have hitem : ∀ a ∈ as, read (t (write a)) = .ok a := by
        intro a ha
        obtain ⟨j, hjs, hread⟩ := exists_of_mapM h a ha
        exact hr (ht.items hj j hjs) hread
      rw [ht.array, List.map_map]
      exact mapM_map hitem
  | _ => cases h

omit ht hr in
theorem mapM_values {d : Dict α} {ms : List (String × Json)}
    (h : ∀ m ∈ ms, ∃ a, d.get? m.1 = some a ∧ read m.2 = .ok a) :
    ∃ fs : List (String × α),
      (ms.mapM fun m : String × Json => (read m.2).map fun a => (m.1, a)) = .ok fs ∧
        fs.map Prod.fst = ms.map Prod.fst ∧ ∀ e ∈ fs, d.get? e.1 = some e.2 := by
  induction ms with
  | nil => exact ⟨[], rfl, rfl, fun e he => absurd he List.not_mem_nil⟩
  | cons m ms ih =>
      obtain ⟨⟨a, ha, hread⟩, hms⟩ := List.forall_mem_cons.mp h
      obtain ⟨fs, hfs, hkeys, hvalues⟩ := ih hms
      refine ⟨(m.1, a) :: fs, ?_, ?_, List.forall_mem_cons.mpr ⟨ha, hvalues⟩⟩
      · exact mapM_cons_eq_ok.mpr ⟨(m.1, a), fs, by rw [hread]; rfl, hfs, rfl⟩
      · rw [List.map_cons, List.map_cons, hkeys]

omit ht hr in
theorem decodeDict_ok {d : Dict α} {es : List (String × Json)} (hes : Distinct es)
    (h : ∀ m ∈ es, ∃ a, d.get? m.1 = some a ∧ read m.2 = .ok a)
    (hnone : ∀ k, get? k es = none → d.get? k = none) :
    decodeDict read (.object es) = .ok d := by
  obtain ⟨fs, hfs, hkeys, hvalues⟩ := mapM_values h
  have hdistinct : Distinct fs := hes.of_keys hkeys
  have hdict : Dict.ofList fs = d := by
    apply Dict.ext_get?
    intro k
    rw [Dict.get?_ofList, hdistinct.get?_reverse]
    cases hfound : get? k fs with
    | some a => exact (hvalues _ (mem_of_get? hfound)).symm
    | none =>
        -- a member under the key would have given a value under it
        refine (hnone k (get?_eq_none_iff.mpr ?_)).symm
        rintro m hm rfl
        have hkey : m.1 ∈ fs.map Prod.fst := hkeys ▸ List.mem_map_of_mem hm
        obtain ⟨e, he, hek⟩ := List.mem_map.mp hkey
        exact get?_eq_none_iff.mp hfound e he hek.symm
  show ((es.mapM fun m : String × Json => (read m.2).map fun a => (m.1, a)) >>= fun fs =>
    pure (Dict.ofList fs)) = _
  rw [hfs, ← hdict]
  rfl

theorem restores_dict :
    Restores t (decodeDict read) fun d => .object (d.entries.map fun e => (e.1, write e.2)) := by
  intro j d hj h
  cases j with
  | object ms =>
      obtain ⟨fs, hfs, h⟩ := bind_eq_ok.mp h
      cases h
      have hvalue : ∀ k a, (Dict.ofList fs).get? k = some a → read (t (write a)) = .ok a := by
        intro k a hk
        rw [Dict.get?_ofList] at hk
        obtain ⟨m, hm, hread⟩ := exists_of_mapM hfs _ (List.mem_reverse.mp (mem_of_get? hk))
        obtain ⟨b, hb, heq⟩ := map_eq_ok.mp hread
        cases heq
        exact hr (ht.members hj m hm) hb
      have hdistinct : Distinct ((Dict.ofList fs).entries.map fun e => (e.1, write e.2)) :=
        (Dict.ofList fs).ascending.distinct.map write
      obtain ⟨es, hes, hdes, hget⟩ := ht.object hdistinct
      have hfound : ∀ k, get? k es = (((Dict.ofList fs).get? k).map write).map t := by
        intro k
        rw [hget k, get?_map write]
        rfl
      rw [hes]
      refine decodeDict_ok hdes (fun m hm => ?_) fun k hk => ?_
      · have hm' : get? m.1 es = some m.2 := hdes.get?_eq_some_iff.mpr hm
        rw [hfound, Option.map_map, Option.map_eq_some_iff] at hm'
        obtain ⟨a, ha, hwritten⟩ := hm'
        exact ⟨a, ha, hwritten ▸ hvalue m.1 a ha⟩
      · rw [hfound, Option.map_map, Option.map_eq_none_iff] at hk
        exact hk
  | _ => cases h

end Nested

/-! ### Fields -/

section Again

variable {t : Json → Json} {read : Json → Decoded α} {write : α → Json} {ms : Members}
  {es : List (String × Json)} {name : String} {a d : α}

theorem Restores.required (hr : Restores t read write) (hms : ∀ m ∈ ms.entries, t m.2 = m.2)
    (h : ms.required name read = .ok a) (hget : get? name es = some (t (write a))) :
    (Members.mk es .missingField).required name read = .ok a := by
  obtain ⟨j, hj, hread⟩ := Members.of_required h
  rw [Members.required_of_get? hget]
  exact hr (hms _ (mem_of_get? hj)) hread

theorem Restores.defaulted (hr : Restores t read write) (hms : ∀ m ∈ ms.entries, t m.2 = m.2)
    (hd : read (t (write d)) = .ok d) (h : ms.defaulted name read d = .ok a)
    (hget : get? name es = some (t (write a))) :
    (Members.mk es .missingField).defaulted name read d = .ok a := by
  rw [Members.defaulted_of_get? hget]
  rcases Members.of_defaulted h with ⟨-, rfl⟩ | ⟨j, hj, hread⟩
  · exact hd
  · exact hr (hms _ (mem_of_get? hj)) hread

theorem Restores.optional (hr : Restores t read write) (hms : ∀ m ∈ ms.entries, t m.2 = m.2)
    (hnull : ∀ a, read .null ≠ .ok a) {o : Option α} (h : ms.optional name read = .ok o)
    (hget : get? name es = (o.map write).map t) :
    (Members.mk es .missingField).optional name read = .ok o := by
  rcases Members.of_optional h with ⟨-, rfl⟩ | ⟨j, a, hj, -, rfl, hread⟩
  · have hnone : get? name es = none := hget
    simp only [Members.optional, Members.defaulted, hnone]
  · have hagain : read (t (write a)) = .ok a := hr (hms _ (mem_of_get? hj)) hread
    have hfound : get? name es = some (t (write a)) := hget
    simp only [Members.optional]
    rw [Members.defaulted_of_get? hfound]
    generalize hj : t (write a) = j at hagain
    cases j with
    | null => exact absurd hagain (hnull a)
    | _ => exact map_eq_ok.mpr ⟨a, hagain, rfl⟩

end Again

/-! ### Members without a field -/

section Rest

variable {t : Json → Json} {ms : Members} {fields : List Field} {named : List (String × Json)}

theorem get?_optional (k name : String) (o : Option Json) :
    get? k (Json.optional name o) = if k = name then o else none := by
  cases o with
  | none =>
      split <;> rfl
  | some j => rfl

theorem optional_sublist (name : String) (o : Option Json) :
    ((Json.optional name o).map Prod.fst).Sublist [name] := by
  cases o with
  | none => exact List.nil_sublist _
  | some j => exact List.Sublist.refl _

theorem distinct_append_rest (hnamed : (named.map Prod.fst).Sublist (fields.map Field.name))
    (hfields : (fields.map Field.name).Nodup) : Distinct (named ++ (ms.rest fields).entries) := by
  refine List.pairwise_append.mpr ⟨?_, (ms.rest fields).ascending.distinct, fun e he e' he' => ?_⟩
  · exact List.pairwise_map.mp (hfields.sublist hnamed)
  · intro heq
    exact (Members.mem_rest he').2 (heq ▸ hnamed.subset (List.mem_map_of_mem he))

/-- What is read from members without a field is read again from them, wherever they stand among the
written members. -/
theorem rest_again {es : List (String × Json)} (hes : Distinct es)
    (hms : ∀ m ∈ ms.entries, t m.2 = m.2)
    (hnamed : (named.map Prod.fst).Sublist (fields.map Field.name))
    (hget : ∀ k, get? k es = (get? k (named ++ (ms.rest fields).entries)).map t) :
    (Members.mk es .missingField).rest fields = ms.rest fields := by
  apply Dict.ext_get?
  intro k
  by_cases hk : k ∈ fields.map Field.name
  · exact (Members.get?_rest_of_mem hk).trans (Members.get?_rest_of_mem hk).symm
  · refine (Members.get?_rest_of_not_mem hes hk).trans ?_
    rw [hget, get?_append, get?_eq_none_of_sublist hnamed hk, Option.none_or]
    -- the members were parts of what was read, which the layout leaves alone
    cases hj : get? k (ms.rest fields).entries with
    | none => exact hj.symm
    | some j =>
        have hfixed : t j = j := hms _ (Members.mem_rest (mem_of_get? hj)).1
        rw [Option.map_some, hfixed]
        exact hj.symm

/-- A record with members that have no field, as a layout shows it: the fields are found where they
were written, and the other members are the same. -/
theorem IsLayout.fields_and_rest (ht : IsLayout t) (hms : ∀ m ∈ ms.entries, t m.2 = m.2)
    (hnamed : (named.map Prod.fst).Sublist (fields.map Field.name))
    (hfields : (fields.map Field.name).Nodup) :
    ∃ es, t (.object (named ++ (ms.rest fields).entries)) = .object es ∧ Distinct es ∧
      (∀ k ∈ fields.map Field.name, get? k es = (get? k named).map t) ∧
      (Members.mk es .missingField).rest fields = ms.rest fields := by
  obtain ⟨es, hes, hdes, hget⟩ := ht.object (distinct_append_rest hnamed hfields)
  refine ⟨es, hes, hdes, fun k hk => ?_, rest_again hdes hms hnamed hget⟩
  rw [hget, get?_append, Members.get?_rest_of_mem hk, Option.or_none]

end Rest

end AdminConsole.Json
