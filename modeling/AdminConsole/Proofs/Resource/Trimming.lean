/-
# `Proofs.Resource.Trimming` — what a row loses by being read and written

Reading a row keeps all its members, those it knows as fields and the others as they
are.  So what is written for it is what it was read from (`Item.written`), except
that a null that stands for a missing value is left out and that a block of
capabilities shows its three flags and nothing else.  The exception is a function on
the value that was read (`Item.trimmed`), told by the edits for the members
concerned; a member without an edit is kept.
-/
import AdminConsole.Proofs.Resource.Rereading

namespace AdminConsole

open Json Entries

/-! ## Edits of members -/

namespace Json

/-- What becomes of the value of a member: where there is an edit for its name, a null is dropped
and another value is edited. -/
def trimmedAt (edits : List (String × (Json → Json))) (name : String) (j : Json) : Option Json :=
  match get? name edits, j with
  | none, j => some j
  | some _, .null => none
  | some edit, j => some (edit j)

/-- Members after their edits. -/
def trimMembers (edits : List (String × (Json → Json))) (ms : List (String × Json)) :
    List (String × Json) :=
  ms.filterMap fun m => (trimmedAt edits m.1 m.2).map fun j => (m.1, j)

variable {edits : List (String × (Json → Json))} {ms : List (String × Json)}

theorem trimmedAt_of_none {name : String} (h : get? name edits = none) (j : Json) :
    trimmedAt edits name j = some j := by
  simp only [trimmedAt, h]

theorem trimmedAt_null {name : String} {edit : Json → Json} (h : get? name edits = some edit) :
    trimmedAt edits name .null = none := by
  simp only [trimmedAt, h]

theorem trimmedAt_of_ne_null {name : String} {edit : Json → Json} (h : get? name edits = some edit)
    {j : Json} (hj : j ≠ .null) : trimmedAt edits name j = some (edit j) := by
  cases j with
  | null => exact absurd rfl hj
  | _ => simp only [trimmedAt, h]

theorem mem_trimMembers {k : String} {j : Json} :
    (k, j) ∈ trimMembers edits ms ↔ ∃ j', (k, j') ∈ ms ∧ trimmedAt edits k j' = some j := by
  rw [trimMembers, List.mem_filterMap]
  constructor
  · rintro ⟨m, hm, h⟩
    obtain ⟨j', hj', heq⟩ := Option.map_eq_some_iff.mp h
    cases heq
    exact ⟨m.2, hm, hj'⟩
  · rintro ⟨j', hm, hj'⟩
    exact ⟨(k, j'), hm, Option.map_eq_some_iff.mpr ⟨j, hj', rfl⟩⟩

theorem ascending_trimMembers (h : Ascending ms) : Ascending (trimMembers edits ms) := by
  refine List.Pairwise.filterMap _ (fun m m' hlt e he e' he' => ?_) h
  obtain ⟨j, -, rfl⟩ := Option.map_eq_some_iff.mp he
  obtain ⟨j', -, rfl⟩ := Option.map_eq_some_iff.mp he'
  exact hlt

theorem get?_trimMembers (h : Ascending ms) (k : String) :
    get? k (trimMembers edits ms) = (get? k ms).bind (trimmedAt edits k) := by
  apply Option.ext
  intro j
  rw [get?_eq_some_iff (ascending_trimMembers h), mem_trimMembers, Option.bind_eq_some_iff]
  simp only [get?_eq_some_iff h]

/-! ## Records with members that have no field -/

section Records

variable {α : Type} {ms : Members} {fields : List Field} {named : List (String × Json)}
  (hms : ordered (.object ms.entries) = .object ms.entries)
include hms

/-- A record is written as the members it was read from after their edits, if its fields are: the
members that have no field are the same, and there are no edits for them. -/
theorem ordered_record (hnamed : (named.map Prod.fst).Sublist (fields.map Field.name))
    (hfields : (fields.map Field.name).Nodup)
    (hedits : (edits.map Prod.fst).Sublist (fields.map Field.name))
    (hvalue : ∀ k ∈ fields.map Field.name,
      (get? k named).map ordered = (get? k ms.entries).bind (trimmedAt edits k)) :
    ordered (.object (named ++ (ms.rest fields).entries))
      = .object (trimMembers edits ms.entries) := by
  have hasc : Ascending ms.entries := ascending_of_ordered hms
  have hwritten : Distinct (named ++ (ms.rest fields).entries) :=
    distinct_append_rest hnamed hfields
  rw [ordered_object]
  refine congrArg Json.object
    (ext_get? (ascending_sort _) (ascending_trimMembers hasc) fun k => ?_)
  rw [(hwritten.map ordered).get?_sort, get?_map, get?_append, get?_trimMembers hasc]
  by_cases hk : k ∈ fields.map Field.name
  · rw [Members.get?_rest_of_mem hk, Option.or_none]
    exact hvalue k hk
  · rw [get?_eq_none_of_sublist hnamed hk, Option.none_or,
      Members.get?_rest_of_not_mem hasc.distinct hk]
    cases hj : get? k ms.entries with
    | none => rfl
    | some j =>
        have hfixed : ordered j = j := isLayout_ordered.members hms _ (mem_of_get? hj)
        have hkept : get? k edits = none := get?_eq_none_of_sublist hedits hk
        rw [Option.map_some, Option.bind_some, trimmedAt_of_none hkept, hfixed]

variable {name : String} {read : Json → Decoded α} {write : α → Json} {edit : Json → Json}

theorem ordered_required {a : α} (h : ms.required name read = .ok a)
    (hedit : get? name edits = none) (hwrite : ∀ j a, read j = .ok a → write a = j) :
    (some (write a)).map ordered = (get? name ms.entries).bind (trimmedAt edits name) := by
  obtain ⟨j, hj, hread⟩ := Members.of_required h
  rw [hj, Option.bind_some, trimmedAt_of_none hedit, hwrite j a hread, Option.map_some,
    isLayout_ordered.members hms _ (mem_of_get? hj)]

theorem ordered_optional {o : Option α} (h : ms.optional name read = .ok o)
    (hedit : get? name edits = some edit)
    (hwrite : ∀ j a, ordered j = j → read j = .ok a → ordered (write a) = edit j) :
    (o.map write).map ordered = (get? name ms.entries).bind (trimmedAt edits name) := by
  rcases Members.of_optional h with ⟨hnone | hnull, rfl⟩ | ⟨j, a, hj, hne, rfl, hread⟩
  · rw [hnone]
    rfl
  · rw [hnull, Option.bind_some, trimmedAt_null hedit]
    rfl
  · have hfixed : ordered j = j := isLayout_ordered.members hms _ (mem_of_get? hj)
    rw [hj, Option.bind_some, trimmedAt_of_ne_null hedit hne, Option.map_some, Option.map_some,
      hwrite j a hfixed hread]

end Records

end Json

/-! ## Capabilities -/

namespace Capabilities

/-- The members of a block of capabilities, which as an array has its flags in this order. -/
def given : Json → List (String × Json)
  | .object ms => ms
  | .array items => ["edit", "delete", "copy"].zip items
  | _ => []

/-- A block of capabilities with its flags and nothing else; a flag that is missing is not set. -/
def trimmed (block : Json) : Json :=
  .object (["copy", "delete", "edit"].map fun flag =>
    (flag, (get? flag (given block)).getD (.bool false)))

theorem written {block : Json} {c : Capabilities} (h : decode block = .ok c) :
    c.toJson.ordered = trimmed block := by
  have hbuilt : ∃ ms : Members, ms.entries = given block ∧
      (do
        let edit ← ms.defaulted "edit" decodeBool false
        let delete ← ms.defaulted "delete" decodeBool false
        let copy ← ms.defaulted "copy" decodeBool false
        pure ⟨edit, delete, copy⟩) = Except.ok c := by
    rcases of_decodeRecord h with ⟨ms, rfl, hbuild⟩ | ⟨items, missing, rfl, hbuild⟩
    · exact ⟨ms, rfl, hbuild⟩
    · exact ⟨_, rfl, hbuild⟩
  obtain ⟨ms, hgiven, hbuild⟩ := hbuilt
  obtain ⟨edit, hedit, hbuild⟩ := bind_eq_ok.mp hbuild
  obtain ⟨delete, hdelete, hbuild⟩ := bind_eq_ok.mp hbuild
  obtain ⟨copy, hcopy, hbuild⟩ := bind_eq_ok.mp hbuild
  cases hbuild
  have flag : ∀ {name : String} {b : Bool}, ms.defaulted name decodeBool false = .ok b →
      (get? name (given block)).getD (.bool false) = .bool b := by
    intro name b hb
    rw [← hgiven]
    rcases Members.of_defaulted hb with ⟨hnone, rfl⟩ | ⟨j, hj, hread⟩
    · rw [hnone]
      rfl
    · rw [hj, ← exact_bool hread]
      rfl
  -- the flags in the order of their names are those of the declaration, backwards
  have hsort : Entries.sort [("edit", Json.bool edit), ("delete", Json.bool delete),
      ("copy", Json.bool copy)] = [("copy", Json.bool copy), ("delete", Json.bool delete),
      ("edit", Json.bool edit)] := by
    refine sort_eq_of_perm (ascending_of_keys ?_) (List.reverse_perm [("edit", Json.bool edit),
      ("delete", Json.bool delete), ("copy", Json.bool copy)])
    show ["copy", "delete", "edit"].Pairwise (· < ·)
    decide
  rw [trimmed, List.map_cons, List.map_cons, List.map_cons, List.map_nil, flag hedit, flag hdelete,
    flag hcopy, ← hsort, toJson, ordered_object]
  simp only [List.map_cons, List.map_nil, ordered]

end Capabilities

/-! ## Rows -/

namespace Summary

/-- Summaries whose block of capabilities is dropped where it is null, and else shows its flags. -/
def trimmed (v : Json) : Json :=
  .object (trimMembers [("user_capabilities", Capabilities.trimmed)] v.members)

theorem written {v : Json} {s : Summary} (hv : v.ordered = v) (h : decode v = .ok s) :
    s.toJson.ordered = trimmed v := by
  obtain ⟨ms, rfl, hbuild⟩ := of_decodeObject h
  obtain ⟨capabilities, hcapabilities, hbuild⟩ := bind_eq_ok.mp hbuild
  cases hbuild
  refine ordered_record hv (optional_sublist _ _) (by decide) (List.Sublist.refl _) ?_
  refine List.forall_mem_singleton.mpr ?_
  rw [get?_optional]
  exact ordered_optional hv hcapabilities rfl fun _ _ _ hread => Capabilities.written hread

end Summary

namespace Item

/-- A row whose name, type and summaries are dropped where they are null, and whose summaries are
trimmed. -/
def trimmed (v : Json) : Json :=
  .object (trimMembers [("name", fun j => j), ("type", fun j => j),
    ("summary_fields", Summary.trimmed)] v.members)

theorem written {v : Json} {item : Item} (hv : v.ordered = v) (h : decode v = .ok item) :
    item.toJson.ordered = trimmed v := by
  obtain ⟨ms, rfl, hbuild⟩ := of_decodeObject h
  obtain ⟨id, hid, hbuild⟩ := bind_eq_ok.mp hbuild
  obtain ⟨name, hname, hbuild⟩ := bind_eq_ok.mp hbuild
  obtain ⟨type, htype, hbuild⟩ := bind_eq_ok.mp hbuild
  obtain ⟨summary, hsummary, hbuild⟩ := bind_eq_ok.mp hbuild
  have htext : ∀ (j : Json) (s : String), ordered j = j → decodeString j = .ok s →
      ordered (.string s) = j := by
    intro j s hj hs
    rw [exact_string hs, hj]
  have hsummaries : ∀ (j : Json) (s : Summary), ordered j = j → Summary.decode j = .ok s →
      ordered s.toJson = Summary.trimmed j := fun _ _ => Summary.written
  obtain ⟨hid', hname', htype', hsummary'⟩ := get?_named item
  cases hbuild
  refine ordered_record hv (named_sublist _) (by decide) (List.sublist_cons_self _ _) ?_
  refine List.forall_mem_cons.mpr ⟨?_, List.forall_mem_cons.mpr ⟨?_, List.forall_mem_cons.mpr
    ⟨?_, List.forall_mem_singleton.mpr ?_⟩⟩⟩
  · exact (congrArg _ hid').trans (ordered_required hv hid rfl fun _ _ => exact_int64)
  · exact (congrArg _ hname').trans (ordered_optional hv hname rfl htext)
  · exact (congrArg _ htype').trans (ordered_optional hv htype rfl htext)
  · exact (congrArg _ hsummary').trans (ordered_optional hv hsummary rfl hsummaries)

end Item

/-! ## All that the service says -/

/-- Whatever is read from a value is read again from what it is written to: with the members as they
are put together, and in the order of their names if the value had them so. -/
def ReadAgain {α : Type} (read : Json → Decoded α) (write : α → Json) (v : Json) : Prop :=
  ∀ x, read v = .ok x →
    read (write x) = .ok x ∧ (v.ordered = v → read (write x).ordered = .ok x)

theorem readAgain_of_restores {α : Type} {read : Json → Decoded α} {write : α → Json}
    (h : ∀ {t : Json → Json}, IsLayout t → Restores t read write) (v : Json) :
    ReadAgain read write v :=
  fun _ hx => ⟨h isLayout_id rfl hx, fun hv => h isLayout_ordered hv hx⟩

/-- Nothing that the service says changes when it is written and read again, and a row that was read
from a value with its members in the order of their names, as every parsed value has them
(`ordered_of_parse?`), is written as that value, trimmed. -/
theorem written_reads_again (v : Json) :
    ReadAgain (Listing.decode Item.decode) (Listing.toJson Item.toJson) v ∧
      ReadAgain Schema.decode Schema.toJson v ∧
      ReadAgain Actions.decode Actions.toJson v ∧
      ReadAgain FieldSchema.decode FieldSchema.toJson v ∧
      ReadAgain Item.decode Item.toJson v ∧
      ReadAgain Summary.decode Summary.toJson v ∧
      ReadAgain Capabilities.decode Capabilities.toJson v ∧
      ReadAgain Association.decode Association.toJson v ∧
      ReadAgain ServerConfig.decode ServerConfig.toJson v ∧
      ReadAgain Me.decode Me.toJson v ∧
      ∀ item, v.ordered = v → Item.decode v = .ok item →
        item.toJson.ordered = Item.trimmed v := by
  refine ⟨?_, ?_, ?_, ?_, ?_, ?_, ?_, ?_, ?_, ?_, fun _ => Item.written⟩
  · exact readAgain_of_restores (fun ht => Listing.restores ht (Item.restores ht)) v
  · exact readAgain_of_restores Schema.restores v
  · exact readAgain_of_restores Actions.restores v
  · exact readAgain_of_restores FieldSchema.restores v
  · exact readAgain_of_restores Item.restores v
  · exact readAgain_of_restores Summary.restores v
  · exact readAgain_of_restores Capabilities.restores v
  · exact readAgain_of_restores Association.restores v
  · exact readAgain_of_restores ServerConfig.restores v
  · exact readAgain_of_restores Me.restores v

/-- A row without a name, whose capabilities are an array of two flags, and with a member that the
console does not know. -/
def terseRow : Json :=
  .object [("id", Json.int 7), ("name", .null),
    ("note", .object [("name", .null), ("shared", .array [.null, Json.int 1])]),
    ("summary_fields", .object [("owner", .null),
      ("user_capabilities", .array [.bool true, .bool true])])]

theorem written_reads_again_terse :
    ∃ item, Item.decode terseRow = .ok item ∧ Item.decode item.toJson = .ok item ∧
      Item.decode item.toJson.ordered = .ok item ∧
      item.toJson.ordered = .object [("id", Json.int 7),
        ("note", .object [("name", .null), ("shared", .array [.null, Json.int 1])]),
        ("summary_fields", .object [("owner", .null),
          ("user_capabilities", .object [("copy", .bool false), ("delete", .bool true),
            ("edit", .bool true)])])] := by
  have hordered : terseRow.ordered = terseRow := by
    have hnote : ordered (.object [("name", .null), ("shared", .array [.null, Json.int 1])])
        = .object [("name", .null), ("shared", .array [.null, Json.int 1])] :=
      ordered_object_eq_self (ascending_of_keys (by decide)) (by simp [ordered, orderedItems, Json.int])
    have hsummaries : ordered (.object [("owner", .null),
          ("user_capabilities", .array [.bool true, .bool true])])
        = .object [("owner", .null), ("user_capabilities", .array [.bool true, .bool true])] :=
      ordered_object_eq_self (ascending_of_keys (by decide)) (by simp [ordered, orderedItems])
    refine ordered_object_eq_self (ascending_of_keys (by decide)) ?_
    simp only [List.forall_mem_cons, hnote, hsummaries]
    simp [ordered, Json.int]
  obtain ⟨-, -, -, -, hagain, -, -, -, -, -, htrimmed⟩ := written_reads_again terseRow
  obtain ⟨item, hread⟩ : ∃ item, Item.decode terseRow = .ok item := ⟨_, rfl⟩
  obtain ⟨hput, hsorted⟩ := hagain item hread
  exact ⟨item, hread, hput, hsorted hordered, htrimmed item hordered hread⟩

end AdminConsole
