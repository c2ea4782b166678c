/-
# `Proofs.Json.Layout` — values that differ in the order of members only

What is put together has its members in the order of declaration; what is read
has them in the order of their names.  So whatever is said about reading a value
again has to hold for both, and it is said for any way to lay out the members
(`IsLayout`): scalars stay, arrays are laid out item by item, and in an object
whose names are distinct the same is found under each name.

The two ways that occur are to leave everything as it is (`isLayout_id`) and to
put the members in the order of their names, at every depth (`ordered`,
`isLayout_ordered`).  A value that was read is one that `ordered` leaves alone.
-/
import AdminConsole.Command.Report
import AdminConsole.Proofs.Dict

namespace AdminConsole

/-! ## Entries with distinct keys -/

namespace Entries

variable {α β : Type} {es fs : List (String × α)}

/-- No key occurs twice. -/
def Distinct (es : List (String × α)) : Prop := es.Pairwise fun a b => a.1 ≠ b.1

theorem Ascending.distinct (h : Ascending es) : Distinct es := by
  refine List.Pairwise.imp (fun {a b} hlt he => ?_) h
  rw [he] at hlt
  exact String.lt_irrefl b.1 hlt

theorem get?_eq_none_iff {k : String} : get? k es = none ↔ ∀ e ∈ es, k ≠ e.1 := by
  induction es with
  | nil => exact ⟨fun _ _ he => absurd he List.not_mem_nil, fun _ => rfl⟩
  | cons e es ih =>
      rw [get?_cons, List.forall_mem_cons]
      by_cases hk : k = e.1
      · rw [if_pos hk]
        exact ⟨nofun, fun h => absurd hk h.1⟩
      · rw [if_neg hk, ih]
        exact ⟨fun h => ⟨hk, h⟩, fun h => h.2⟩

theorem get?_eq_none_of_sublist {names : List String} (h : (es.map Prod.fst).Sublist names)
    {k : String} (hk : k ∉ names) : get? k es = none := by
  rw [get?_eq_none_iff]
  rintro e he rfl
  exact hk (h.subset (List.mem_map_of_mem he))

theorem distinct_cons {e : String × α} :
    Distinct (e :: es) ↔ get? e.1 es = none ∧ Distinct es := by
  rw [get?_eq_none_iff]
  exact List.pairwise_cons

theorem Distinct.get?_eq_some_iff (h : Distinct es) {k : String} {a : α} :
    get? k es = some a ↔ (k, a) ∈ es := by
  refine ⟨mem_of_get?, fun hmem => ?_⟩
  induction es with
  | nil => exact absurd hmem List.not_mem_nil
  | cons e es ih =>
      obtain ⟨hhead, htail⟩ := distinct_cons.mp h
      rw [get?_cons]
      rcases List.mem_cons.mp hmem with rfl | hmem
      · exact if_pos rfl
      · have hne : k ≠ e.1 := by
          rintro rfl
          exact get?_eq_none_iff.mp hhead _ hmem rfl
        rw [if_neg hne]
        exact ih htail hmem

theorem Distinct.reverse (h : Distinct es) : Distinct es.reverse :=
  List.pairwise_reverse.mpr (h.imp Ne.symm)

theorem Distinct.get?_reverse (h : Distinct es) (k : String) : get? k es.reverse = get? k es := by
  apply Option.ext
  intro a
  rw [h.reverse.get?_eq_some_iff, h.get?_eq_some_iff, List.mem_reverse]

theorem Distinct.map (h : Distinct es) (g : α → β) :
    Distinct (es.map fun e => (e.1, g e.2)) := List.pairwise_map.mpr h

theorem Distinct.of_keys {gs : List (String × β)} (h : Distinct es)
    (hkeys : gs.map Prod.fst = es.map Prod.fst) : Distinct gs := by
  have hes : (es.map Prod.fst).Pairwise fun k k' => k ≠ k' := List.pairwise_map.mpr h
  rw [← hkeys] at hes
  exact List.pairwise_map.mp hes

theorem get?_append (k : String) (es fs : List (String × α)) :
    get? k (es ++ fs) = (get? k es).or (get? k fs) := by
  induction es with
  | nil => rfl
  | cons e es ih =>
      rw [List.cons_append, get?_cons, get?_cons, ih]
      split <;> rfl

theorem Distinct.get?_sort (h : Distinct es) (k : String) : get? k (sort es) = get? k es :=
  (Dict.get?_ofList es k).trans (h.get?_reverse k)

/-- Sorting gives the only list of the same entries whose keys ascend. -/
theorem sort_eq_of_perm (hfs : Ascending fs) (hperm : fs.Perm es) : sort es = fs := by
  have hes : Distinct es := (hperm.pairwise_iff Ne.symm).mp hfs.distinct
  refine ext_get? (ascending_sort es) hfs fun k => Option.ext fun a => ?_
  rw [hes.get?_sort, hes.get?_eq_some_iff, get?_eq_some_iff hfs, hperm.mem_iff]

theorem ascending_of_keys (h : (es.map Prod.fst).Pairwise (· < ·)) : Ascending es :=
  List.pairwise_map.mp h

theorem mem_of_mem_sort {e : String × α} (h : e ∈ sort es) : e ∈ es := by
  have hfound : get? e.1 (sort es) = some e.2 :=
    (get?_eq_some_iff (ascending_sort es)).mpr h
  rw [show get? e.1 (sort es) = get? e.1 es.reverse from Dict.get?_ofList es e.1] at hfound
  exact List.mem_reverse.mp (mem_of_get? hfound)

end Entries

namespace Json

open Entries

/-! ## The order of names -/

theorem orderedItems_eq (js : List Json) : orderedItems js = js.map ordered := by
  induction js with
  | nil => rfl
  | cons j js ih => rw [orderedItems, ih, List.map_cons]

theorem orderedMembers_eq (ms : List (String × Json)) :
    orderedMembers ms = ms.map fun m => (m.1, ordered m.2) := by
  induction ms with
  | nil => rfl
  | cons m ms ih => rw [orderedMembers, ih, List.map_cons]

@[simp] theorem ordered_array (js : List Json) : ordered (.array js) = .array (js.map ordered) := by
  rw [ordered, orderedItems_eq]

@[simp] theorem ordered_object (ms : List (String × Json)) :
    ordered (.object ms) = .object (Entries.sort (ms.map fun m => (m.1, ordered m.2))) := by
  rw [ordered, orderedMembers_eq, sorted]

theorem ordered_object_eq_self {ms : List (String × Json)} (h : Ascending ms)
    (hms : ∀ m ∈ ms, ordered m.2 = m.2) : ordered (.object ms) = .object ms := by
  have hmap : (ms.map fun m => (m.1, ordered m.2)) = ms :=
    (List.map_congr_left fun m hm => by rw [hms m hm]; rfl).trans (List.map_id ms)
  rw [ordered_object, hmap, sort_eq_of_perm h (List.Perm.refl ms)]

theorem ascending_of_ordered {ms : List (String × Json)} (h : ordered (.object ms) = .object ms) :
    Ascending ms := by
  rw [ordered_object] at h
  exact Json.object.inj h ▸ ascending_sort _

/-! ## Layouts -/

/-- A way to lay out values: it may move the members of objects, and does nothing else.  What it
leaves alone consists of what it leaves alone. -/
structure IsLayout (t : Json → Json) : Prop where
  null : t .null = .null
  bool (b : Bool) : t (.bool b) = .bool b
  number (n : Number) : t (.number n) = .number n
  string (s : String) : t (.string s) = .string s
  array (js : List Json) : t (.array js) = .array (js.map t)
  object {ms : List (String × Json)} (h : Distinct ms) :
    ∃ es, t (.object ms) = .object es ∧ Distinct es ∧ ∀ k, get? k es = (get? k ms).map t
  members {ms : List (String × Json)} (h : t (.object ms) = .object ms) : ∀ m ∈ ms, t m.2 = m.2

theorem isLayout_id : IsLayout id where
  null := rfl
  bool _ := rfl
  number _ := rfl
  string _ := rfl
  array js := by rw [List.map_id]; rfl
  object {ms} h := ⟨ms, rfl, h, fun k => by rw [Option.map_id]; rfl⟩
  members _ _ _ := rfl

theorem isLayout_ordered : IsLayout ordered where
  null := by rw [ordered]
  bool b := by rw [ordered]
  number n := by rw [ordered]
  string s := by rw [ordered]
  array := ordered_array
  object {ms} h := by
    refine ⟨_, ordered_object ms, (ascending_sort _).distinct, fun k => ?_⟩
    rw [(h.map ordered).get?_sort, get?_map]
  members {ms} h := by
    have hms : Distinct ms := (ascending_of_ordered h).distinct
    have hsort : Entries.sort (ms.map fun m => (m.1, ordered m.2)) = ms := by
      rw [ordered_object] at h
      exact Json.object.inj h
    intro m hm
    -- the same member is found before and after the members have been put in order
    have hfound : get? m.1 ms = some m.2 := hms.get?_eq_some_iff.mpr hm
    have hordered : get? m.1 ms = (get? m.1 ms).map ordered := by
      rw [← get?_map ordered m.1 ms, ← (hms.map ordered).get?_sort, hsort]
    rw [hfound] at hordered
    exact (Option.some.inj hordered).symm

theorem IsLayout.items {t : Json → Json} (ht : IsLayout t) {js : List Json}
    (h : t (.array js) = .array js) : ∀ j ∈ js, t j = j := by
  rw [ht.array] at h
  intro j hj
  exact List.map_eq_map_iff.mp ((Json.array.inj h).trans (List.map_id js).symm) j hj

end Json

end AdminConsole
