/-
# `Proofs.Json.Parsing` — a document is read with its members in order

What is read from a text has the members of every object in the order of their
names, at every depth: a reader for the values of one level less gives such values
(`GivesOrdered`), so arrays and objects of them are such values too, and the depth
goes down with each level.
-/
import AdminConsole.Json.Parser
import AdminConsole.Proofs.Json.Layout

namespace AdminConsole.Json

open Entries

/-- What a reader gives has its members in the order of their names. -/
def GivesOrdered (value : Reader) : Prop :=
  ∀ {cs : List Char} {j : Json} {r : List Char}, value cs = some (j, r) → ordered j = j

variable {value : Reader} (hvalue : GivesOrdered value)
include hvalue

theorem ordered_of_readItems {fuel : Nat} {cs : List Char} {js : List Json} {r : List Char}
    (h : readItems value fuel cs = some (js, r)) : ∀ j ∈ js, ordered j = j := by
  induction fuel generalizing cs js r with
  | zero => cases h
  | succ fuel ih =>
      obtain ⟨⟨j, r'⟩, hj, h⟩ := Option.bind_eq_some_iff.mp h
      dsimp only at h
      split at h
      · obtain ⟨⟨js', r''⟩, hjs, h⟩ := Option.bind_eq_some_iff.mp h
        cases h
        exact List.forall_mem_cons.mpr ⟨hvalue hj, ih hjs⟩
      · cases h
        exact List.forall_mem_singleton.mpr (hvalue hj)
      · cases h

theorem ordered_of_readMember {cs : List Char} {m : String × Json} {r : List Char}
    (h : readMember value cs = some (m, r)) : ordered m.2 = m.2 := by
  simp only [readMember] at h
  split at h
  · obtain ⟨⟨name, r'⟩, -, h⟩ := Option.bind_eq_some_iff.mp h
    split at h
    · obtain ⟨⟨j, r''⟩, hj, h⟩ := Option.bind_eq_some_iff.mp h
      cases h
      exact hvalue hj
    · cases h
  · cases h

theorem ordered_of_readMembers {fuel : Nat} {cs : List Char} {ms : List (String × Json)}
    {r : List Char} (h : readMembers value fuel cs = some (ms, r)) :
    ∀ m ∈ ms, ordered m.2 = m.2 := by
  induction fuel generalizing cs ms r with
  | zero => cases h
  | succ fuel ih =>
      obtain ⟨⟨m, r'⟩, hm, h⟩ := Option.bind_eq_some_iff.mp h
      have hfirst := ordered_of_readMember hvalue hm
      dsimp only at h
      split at h
      · obtain ⟨⟨ms', r''⟩, hms, h⟩ := Option.bind_eq_some_iff.mp h
        cases h
        exact List.forall_mem_cons.mpr ⟨hfirst, ih hms⟩
      · cases h
        exact List.forall_mem_singleton.mpr hfirst
      · cases h

theorem givesOrdered_readArray : GivesOrdered (readArray value) := by
  intro cs j r h
  simp only [readArray] at h
  split at h
  · cases h
    rfl
  · obtain ⟨⟨js, r'⟩, hjs, h⟩ := Option.map_eq_some_iff.mp h
    cases h
    have hmap : js.map ordered = js :=
      (List.map_congr_left (ordered_of_readItems hvalue hjs)).trans (List.map_id js)
    rw [ordered_array, hmap]

theorem givesOrdered_readObject : GivesOrdered (readObject value) := by
  intro cs j r h
  simp only [readObject] at h
  split at h
  · cases h
    rfl
  · obtain ⟨⟨ms, r'⟩, hms, h⟩ := Option.map_eq_some_iff.mp h
    cases h
    have hmember := ordered_of_readMembers hvalue hms
    exact ordered_object_eq_self (ascending_sort ms) fun m hm => hmember m (mem_of_mem_sort hm)

omit hvalue in
theorem givesOrdered_readValue (depth : Nat) : GivesOrdered (readValue depth) := by
  induction depth with
  | zero => exact fun h => nomatch h
  | succ depth ih =>
      intro cs j r h
      simp only [readValue] at h
      split at h
      · cases h; rfl
      · cases h; rfl
      · cases h; rfl
      · obtain ⟨⟨s, r'⟩, -, h⟩ := Option.map_eq_some_iff.mp h
        cases h
        rfl
      · exact givesOrdered_readArray ih h
      · exact givesOrdered_readObject ih h
      · obtain ⟨⟨n, r'⟩, -, h⟩ := Option.map_eq_some_iff.mp h
        cases h
        rfl

omit hvalue in
/-- The value of a document has its members in the order of their names, at every depth. -/
theorem ordered_of_parse? {s : String} {v : Json} (h : parse? s = some v) : ordered v = v := by
  simp only [parse?, parseChars?] at h
  split at h
  next j r hread =>
    split at h
    · cases h
      exact givesOrdered_readValue 128 hread
    · cases h
  next => cases h

end AdminConsole.Json
