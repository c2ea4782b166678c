/-
# `Proofs.Api.Messages` — every line of a refusal is told

The body of a refusal is laid out in lines by two recursions that run through each
other, one on values and one on the items of arrays.  What they give is said here
without them.  A *path* leads from the body into arrays, item by item, and from an
object first to one of its members.  Where a path ends at a value that is neither
null nor an array, there is a text; and the lines are the texts at all these paths,
in the order of the paths, each once (`Spells`).  Indices are in their order and
members in that of their names, so the order of the paths is that of the document.

One lemma carries both recursions (`Spells.cons`): texts below a first step and texts
below later steps make up a row.  It is used for the items of an array and for the
members of an object.

The line that sums a refusal up was taken from the same lines when it was built, so
it is always the first one that is shown (`head?_messages_ofStatus`).
-/
import AdminConsole.Api.Error
import AdminConsole.Proofs.Dict

namespace AdminConsole

namespace Json

/-! ## Paths -/

/-- A step into an object or into an array. -/
inductive Step where
  | member (name : String)
  | index (i : Nat)
  deriving DecidableEq

/-- The order of members and that of items. -/
def Step.Before : Step → Step → Prop
  | .member name, .member name' => name < name'
  | .index i, .index i' => i < i'
  | _, _ => False

abbrev Path := List Step

def item? : Json → Step → Option Json
  | .array items, .index i => items[i]?
  | _, _ => none

/-- The value at the end of a path that leads through arrays only. -/
def at? (j : Json) : Path → Option Json
  | [] => some j
  | s :: path => (j.item? s).bind fun j => j.at? path

/-- The text of a value on a line of its own: strings are as they are and other values are written as
JSON, but null and arrays have none. -/
def lineText? : Json → Option String
  | .null => none
  | .array _ => none
  | .string s => some s
  | j => some j.compact

/-- The text at the end of a path through arrays. -/
def textAt? (j : Json) (path : Path) : Option String := (j.at? path).bind lineText?

/-- The text at the end of a path from one of the items of an array, counted from some number on. -/
def itemTextAt? (n : Nat) (items : List Json) : Path → Option String
  | .index i :: path => if n ≤ i then items[i - n]?.bind fun j => j.textAt? path else none
  | _ => none

/-- The text at the end of a path from one of the members of an object, with the name of the member. -/
def memberTextAt? (members : List (String × Json)) : Path → Option String
  | .member name :: path =>
    (Entries.get? name members).bind fun j => (j.textAt? path).map fun line => name ++ ": " ++ line
  | _ => none

/-- The text at the end of a path from a body.  The first step into an object gives its name to the
text. -/
def bodyTextAt? : Option Json → Path → Option String
  | none => fun _ => none
  | some (.object members) => memberTextAt? members
  | some j => j.textAt?

/-- Lines that correspond one to one to the paths with a text, in their order. -/
def Spells (text? : Path → Option String) (ls : List String) : Prop :=
  ∃ paths : List Path, paths.Pairwise (List.Lex Step.Before) ∧
    (∀ path, path ∈ paths ↔ (text? path).isSome = true) ∧ paths.map text? = ls.map some

theorem Step.not_before_self (s : Step) : ¬s.Before s := by
  cases s with
  | member name => exact String.lt_irrefl name
  | index i => exact Nat.lt_irrefl i

namespace Spells

variable {text? head? rest? : Path → Option String} {ls ls' : List String}

theorem congr (h : Spells head? ls) (heq : ∀ path, text? path = head? path) : Spells text? ls :=
  funext heq ▸ h

theorem nil (h : ∀ path, text? path = none) : Spells text? [] :=
  ⟨[], List.Pairwise.nil, fun path => by simp [h path], rfl⟩

theorem single {s : String} (here : text? [] = some s) (below : ∀ s path, text? (s :: path) = none) :
    Spells text? [s] := by
  refine ⟨[[]], List.pairwise_singleton _ _, fun path => ?_, by simp [here]⟩
  cases path with
  | nil => simp [here]
  | cons s path => simp [below]

theorem cons {s : Step} {g : String → String} (hhead : Spells head? ls) (hrest : Spells rest? ls')
    (here : ∀ path, text? (s :: path) = (head? path).map g)
    (there : ∀ path, (∀ p, path ≠ s :: p) → text? path = rest? path)
    (later : ∀ path, (rest? path).isSome = true → ∃ s' p, path = s' :: p ∧ s.Before s') :
    Spells text? (ls.map g ++ ls') := by
  obtain ⟨paths, hsorted, hmem, hmap⟩ := hhead
  obtain ⟨paths', hsorted', hmem', hmap'⟩ := hrest
  have hlater : ∀ path ∈ paths', ∃ s' p, path = s' :: p ∧ s.Before s' := fun path hpath =>
    later path ((hmem' path).mp hpath)
  have hother : ∀ path ∈ paths', ∀ p, path ≠ s :: p := by
    intro path hpath p he
    obtain ⟨s', p', rfl, hs⟩ := hlater path hpath
    cases he
    exact s.not_before_self hs
  refine ⟨paths.map (s :: ·) ++ paths', ?_, ?_, ?_⟩
  · refine List.pairwise_append.mpr ⟨?_, hsorted', ?_⟩
    · exact List.pairwise_map.mpr (hsorted.imp fun h => .cons h)
    · intro path hpath path' hpath'
      obtain ⟨p, -, rfl⟩ := List.mem_map.mp hpath
      obtain ⟨s', p', rfl, hs⟩ := hlater path' hpath'
      exact .rel hs
  · intro path
    rw [List.mem_append, List.mem_map]
    by_cases hs : ∃ p, path = s :: p
    · obtain ⟨p, rfl⟩ := hs
      have hnot : s :: p ∉ paths' := fun h => hother _ h p rfl
      simp [hnot, here, hmem]
    · have hne : ∀ p, path ≠ s :: p := fun p he => hs ⟨p, he⟩
      have hnot : ¬∃ p ∈ paths, s :: p = path := fun ⟨p, _, he⟩ => hne p he.symm
      rw [or_iff_right hnot, hmem', there path hne]
  · have hfirst : (paths.map (s :: ·)).map text? = (ls.map g).map some := by
      have hhere : text? ∘ (s :: ·) = Option.map g ∘ head? := funext here
      rw [List.map_map, hhere, ← List.map_map, hmap, List.map_map, List.map_map]
      rfl
    have hsecond : paths'.map text? = paths'.map rest? :=
      List.map_congr_left fun path hpath => there path (hother path hpath)
    rw [List.map_append, hfirst, hsecond, hmap', List.map_append]

end Spells

theorem textAt?_cons {j : Json} (h : ∀ items, j ≠ .array items) (s : Step) (path : Path) :
    j.textAt? (s :: path) = none := by
  cases j with
  | array items => exact absurd rfl (h items)
  | _ => rfl

theorem textAt?_array (items : List Json) (path : Path) :
    (Json.array items).textAt? path = itemTextAt? 0 items path := by
  match path with
  | [] => rfl
  | .member name :: path => rfl
  | .index i :: path =>
      simp only [textAt?, at?, item?, itemTextAt?, Nat.zero_le, if_true, Nat.sub_zero]
      rw [Option.bind_assoc]

theorem itemTextAt?_nil (n : Nat) (path : Path) : itemTextAt? n [] path = none := by
  match path with
  | [] => rfl
  | .member name :: path => rfl
  | .index i :: path => simp [itemTextAt?]

theorem itemTextAt?_cons_of_ne {n : Nat} {j : Json} {r : List Json} {path : Path}
    (h : ∀ p, path ≠ .index n :: p) : itemTextAt? n (j :: r) path = itemTextAt? (n + 1) r path := by
  match path with
  | [] => rfl
  | .member name :: path => rfl
  | .index i :: path =>
      have hne : i ≠ n := fun he => h path (he ▸ rfl)
      simp only [itemTextAt?]
      by_cases hi : n + 1 ≤ i
      · have hle : n ≤ i := Nat.le_of_succ_le hi
        have hsub : i - n = i - (n + 1) + 1 := by omega
        rw [if_pos hi, if_pos hle, hsub, List.getElem?_cons_succ]
      · have hnot : ¬n ≤ i := by omega
        rw [if_neg hi, if_neg hnot]

theorem index_of_itemTextAt? {n : Nat} {items : List Json} {path : Path}
    (h : (itemTextAt? (n + 1) items path).isSome = true) :
    ∃ s p, path = s :: p ∧ (Step.index n).Before s := by
  match path with
  | [] => cases h
  | .member name :: path => cases h
  | .index i :: path =>
      simp only [itemTextAt?] at h
      split at h
      next hi => exact ⟨_, path, rfl, hi⟩
      next => cases h

theorem memberTextAt?_nil (path : Path) : memberTextAt? [] path = none := by
  match path with
  | [] => rfl
  | .member name :: path => rfl
  | .index i :: path => rfl

theorem memberTextAt?_cons_of_ne {m : String × Json} {members : List (String × Json)} {path : Path}
    (h : ∀ p, path ≠ .member m.1 :: p) :
    memberTextAt? (m :: members) path = memberTextAt? members path := by
  match path with
  | [] => rfl
  | .index i :: path => rfl
  | .member name :: path =>
      have hne : name ≠ m.1 := fun he => h path (he ▸ rfl)
      simp only [memberTextAt?]
      rw [Entries.get?_cons, if_neg hne]

theorem mem_of_memberTextAt? {members : List (String × Json)} {path : Path}
    (h : (memberTextAt? members path).isSome = true) :
    ∃ m ∈ members, ∃ p, path = .member m.1 :: p := by
  match path with
  | [] => cases h
  | .index i :: path => cases h
  | .member name :: path =>
      simp only [memberTextAt?] at h
      cases hfound : Entries.get? name members with
      | none => simp [hfound] at h
      | some j => exact ⟨_, Entries.mem_of_get? hfound, path, rfl⟩

end Json

namespace ApiError

open Json

/-! ## Lines -/

theorem spells_items_cons {n : Nat} {j : Json} {r : List Json} {ls ls' : List String}
    (hj : Spells j.textAt? ls) (hr : Spells (itemTextAt? (n + 1) r) ls') :
    Spells (itemTextAt? n (j :: r)) (ls ++ ls') := by
  have hfirst : ∀ path, itemTextAt? n (j :: r) (.index n :: path) = (j.textAt? path).map id := by
    intro path
    simp [itemTextAt?]
  have hspells := hj.cons (g := id) hr hfirst (fun _ => itemTextAt?_cons_of_ne)
    (fun _ => index_of_itemTextAt?)
  rwa [List.map_id] at hspells

mutual

/-- The lines of a value are the texts at the paths into it. -/
theorem spells_lines (j : Json) : Spells j.textAt? (lines j) := by
  cases j with
  | null =>
      have hnull : ∀ items, Json.null ≠ .array items := nofun
      refine .nil fun path => ?_
      cases path with
      | nil => rfl
      | cons s path => exact textAt?_cons hnull s path
  | bool b => exact .single rfl (textAt?_cons nofun)
  | number n => exact .single rfl (textAt?_cons nofun)
  | string s => exact .single rfl (textAt?_cons nofun)
  | array items => exact (spells_itemLines 0 items).congr (textAt?_array items)
  | object members => exact .single rfl (textAt?_cons nofun)

theorem spells_itemLines (n : Nat) (items : List Json) :
    Spells (itemTextAt? n items) (itemLines items) := by
  cases items with
  | nil => exact .nil (itemTextAt?_nil n)
  | cons j r => exact spells_items_cons (spells_lines j) (spells_itemLines (n + 1) r)

end

/-- The lines of the members of an object are the texts at the paths from them, if the members are in
the order of their names. -/
theorem spells_memberLines {members : List (String × Json)} (h : Entries.Ascending members) :
    Spells (memberTextAt? members) (memberLines members) := by
  induction members with
  | nil => exact .nil memberTextAt?_nil
  | cons m members ih =>
      obtain ⟨hlt, htail⟩ := List.pairwise_cons.mp h
      have hfirst : ∀ path, memberTextAt? (m :: members) (.member m.1 :: path)
          = (m.2.textAt? path).map fun line => m.1 ++ ": " ++ line := by
        intro path
        simp only [memberTextAt?]
        rw [Entries.get?_cons, if_pos rfl]
        rfl
      refine (spells_lines m.2).cons (ih htail) hfirst (fun _ => memberTextAt?_cons_of_ne) ?_
      intro path hpath
      obtain ⟨m', hm', p, rfl⟩ := mem_of_memberTextAt? hpath
      exact ⟨_, p, rfl, hlt m' hm'⟩

theorem bodyLines_of_detail {members : List (String × Json)} {detail : String}
    (h : Entries.get? "detail" members = some (.string detail)) :
    bodyLines (some (.object members)) = [detail] := by
  simp only [bodyLines, h]

theorem bodyLines_of_no_detail {members : List (String × Json)}
    (h : ∀ detail, Entries.get? "detail" members ≠ some (.string detail)) :
    bodyLines (some (.object members)) = memberLines members := by
  simp only [bodyLines]

theorem spells_bodyLines {body : Option Json}
    (sorted : ∀ members, body = some (.object members) → Entries.Ascending members)
    (noDetail : ∀ members detail, body = some (.object members) →
      Entries.get? "detail" members ≠ some (.string detail)) :
    Spells (bodyTextAt? body) (bodyLines body) := by
  cases body with
  | none => exact .nil fun _ => rfl
  | some j =>
      cases j with
      | object members =>
          rw [bodyLines_of_no_detail fun detail => noDetail members detail rfl]
          exact spells_memberLines (sorted members rfl)
      | _ => exact spells_lines _

/-! ## Failures -/

theorem messages_ofStatus (method url : String) (status : Nat) (body : Option Json) :
    (ofStatus method url status body).messages =
      if bodyLines body = [] then [statusSummary status] else bodyLines body := by
  simp only [messages, ofStatus]
  cases bodyLines body with
  | nil => rfl
  | cons l ls => rfl

theorem head?_messages_ofStatus (method url : String) (status : Nat) (body : Option Json) :
    (ofStatus method url status body).messages.head?
      = some (ofStatus method url status body).message := by
  simp only [messages, ofStatus]
  cases bodyLines body with
  | nil => rfl
  | cons l ls => rfl

/-- **No line of a refusal is lost or moved.**  What is shown of a failure begins with its summary.  Of a
refusal whose body is an object with a text under `detail`, that text is shown alone; of any other the
texts at the paths from its body are shown, and the status only if there are none. -/
theorem every_line_told (method url : String) :
    (∀ status body, let e := ofStatus method url status body
      e.messages.head? = some e.message ∧
        (∀ members detail, body = some (.object members) →
          Entries.get? "detail" members = some (.string detail) → e.messages = [detail]) ∧
        ((∀ members, body = some (.object members) → Entries.Ascending members) →
          (∀ members detail, body = some (.object members) →
            Entries.get? "detail" members ≠ some (.string detail)) →
          ∃ ls, Spells (bodyTextAt? body) ls ∧ e.messages =
            if ls = [] then ["request failed with status " ++ toString status] else ls)) ∧
    (∀ message, let e := transport method url message
      e.messages.head? = some e.message ∧ e.messages = [message]) ∧
    ∀ source, let e := malformed method url source
      e.messages.head? = some e.message ∧
        e.messages = ["malformed response: " ++ source.message] := by
  refine ⟨fun status body => ⟨head?_messages_ofStatus .., ?_, ?_⟩,
    fun _ => ⟨rfl, rfl⟩, fun _ => ⟨rfl, rfl⟩⟩
  · intro members detail hbody hdetail
    rw [messages_ofStatus, hbody, bodyLines_of_detail hdetail]
    rfl
  · intro sorted noDetail
    exact ⟨bodyLines body, spells_bodyLines sorted noDetail, messages_ofStatus ..⟩

/-- Arrays in arrays, an object as an item, a `detail` that is no text, and a body without lines. -/
theorem every_line_told_hosts :
    let members : List (String × Json) :=
      [("active_jobs", .array [.object [("id", .int 7)], .null]),
        ("detail", .array [.string "a", .array [], .array [.array [.string "b"]]]), ("other", .null)]
    let e := ofStatus "DELETE" "hosts/1/" 409 (some (.object members))
    Entries.Ascending members ∧
      e.messages = ["active_jobs: \x7b\"id\":7\x7d", "detail: a", "detail: b"] ∧
      e.messages.head? = some e.message ∧
      (∃ ls, Spells (memberTextAt? members) ls ∧ e.messages =
        if ls = [] then ["request failed with status 409"] else ls) ∧
      (ofStatus "GET" "hosts/" 403 (some (.object [("detail", .string "no")]))).messages = ["no"] ∧
      ∃ ls, Spells (textAt? (.array [.null, .array []])) ls ∧
        (ofStatus "GET" "hosts/" 500 (some (.array [.null, .array []]))).messages =
          if ls = [] then ["request failed with status 500"] else ls := by
  intro members e
  have sorted : Entries.Ascending members := by
    unfold Entries.Ascending
    decide
  obtain ⟨hhead, -, hlines⟩ := (every_line_told "DELETE" "hosts/1/").1 409 (some (.object members))
  obtain ⟨hrefused, -, -⟩ := every_line_told "GET" "hosts/"
  refine ⟨sorted, by decide +kernel, hhead, hlines ?_ ?_, ?_, ?_⟩
  · rintro _ ⟨⟩
    exact sorted
  · rintro _ detail ⟨⟩
    exact nofun
  · exact (hrefused 403 _).2.1 _ "no" rfl rfl
  · have hall := (hrefused 500 (some (.array [.null, .array []]))).2.2
    exact hall (fun _ h => by cases h) (fun _ _ h => by cases h)

end ApiError

end AdminConsole
