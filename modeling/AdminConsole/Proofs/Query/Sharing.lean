/-
# `Proofs.Query.Sharing` — several lists share one search string

Lists with different namespaces write into one search string in any order.  The
invariant of a run has two halves: the search string stays plain, and what a
list owns in it are the pieces of its last write, or those of the first search
string while it has written nothing (`own_locationAfter`).  One write changes
the second half for its own list only, which is all that `own_update` and
`own_update_of_ne` say.

What a list reads is determined by what it owns.  So it reads its last write,
whatever the others wrote before or after, and two runs in which each list
writes the same, in the same order, end in search strings that all lists read
alike (`parse_locationAfter`).
-/
import AdminConsole.Proofs.Query.Writing

namespace AdminConsole.Query

/-- One list writes its params. -/
structure Write (ι : Type) where
  list : ι
  params : Params

variable {ι : Type}

/-- The search string after a row of writes. -/
def locationAfter (scopes : ι → Scope) (search : String) (writes : List (Write ι)) : String :=
  writes.foldl (fun s w => update (scopes w.list) s w.params) search

theorem locationAfter_cons (scopes : ι → Scope) (search : String) (w : Write ι)
    (writes : List (Write ι)) : locationAfter scopes search (w :: writes)
      = locationAfter scopes (update (scopes w.list) search w.params) writes :=
  List.foldl_cons ..

variable [DecidableEq ι]

/-- What one list writes, in its order. -/
def writesOf (i : ι) (writes : List (Write ι)) : List Params :=
  (writes.filter fun w => w.list = i).map Write.params

/-- The search string in which a list finds what it reads after its own writes: the text of its
last write alone, or the first search string if it has written nothing. -/
def lastWritten (scope : Scope) (search : String) (written : List Params) : String :=
  match written.getLast? with
  | some params => encode scope params
  | none => search

theorem lastWritten_cons (scope : Scope) (search : String) (params : Params)
    (written : List Params) :
    lastWritten scope search (params :: written)
      = lastWritten scope (encode scope params) written := by
  simp only [lastWritten]
  rw [List.getLast?_cons]
  cases written.getLast? with
  | none => rfl
  | some last => rfl

theorem own_lastWritten_congr {scope : Scope} {search search' : String}
    (h : scope.own search = scope.own search') (written : List Params) :
    scope.own (lastWritten scope search written)
      = scope.own (lastWritten scope search' written) := by
  simp only [lastWritten]
  cases written.getLast? with
  | none => exact h
  | some last => rfl

theorem writesOf_cons (i : ι) (w : Write ι) (writes : List (Write ι)) :
    writesOf i (w :: writes) = if w.list = i then w.params :: writesOf i writes
      else writesOf i writes := by
  simp only [writesOf]
  rw [List.filter_cons]
  by_cases h : w.list = i
  · simp [h]
  · simp [h]

section Runs

variable {scopes : ι → Scope} {search : String}

/-- After any writes, a list owns the pieces of its last write. -/
theorem own_locationAfter (distinct : ∀ i j, (scopes i).owner = (scopes j).owner → i = j)
    (plain : Plain search) (writes : List (Write ι)) (i : ι) :
    (scopes i).own (locationAfter scopes search writes)
      = (scopes i).own (lastWritten (scopes i) search (writesOf i writes)) := by
  induction writes generalizing search with
  | nil => rfl
  | cons w writes ih =>
      have hnext := ih (plain_update (scopes w.list) plain w.params)
      rw [locationAfter_cons, hnext, writesOf_cons]
      by_cases hi : w.list = i
      · subst hi
        rw [if_pos rfl, lastWritten_cons]
        exact own_lastWritten_congr (own_update (scopes w.list) plain w.params) _
      · have hne : (scopes w.list).owner ≠ (scopes i).owner := fun he => hi (distinct _ _ he)
        rw [if_neg hi]
        exact own_lastWritten_congr (own_update_of_ne hne plain w.params) _

/-- **Lists that share a search string do not interfere.**  At every moment each list reads what it
wrote last, or the first search string, and the order among different lists does not matter. -/
theorem parse_locationAfter (distinct : ∀ i j, (scopes i).owner = (scopes j).owner → i = j)
    (plain : Plain search) (writes : List (Write ι)) :
    (∀ done, done <+: writes → ∀ i,
      parse (scopes i) (locationAfter scopes search done)
        = match (writesOf i done).getLast? with
          | some params => parse (scopes i) (encode (scopes i) params)
          | none => parse (scopes i) search) ∧
    ∀ reordered : List (Write ι), (∀ i, writesOf i reordered = writesOf i writes) → ∀ i,
      parse (scopes i) (locationAfter scopes search reordered)
        = parse (scopes i) (locationAfter scopes search writes) := by
  constructor
  · intro done _ i
    have hread := parse_congr (own_locationAfter distinct plain done i)
    rw [hread]
    simp only [lastWritten]
    cases (writesOf i done).getLast? with
    | none => rfl
    | some params => rfl
  · intro reordered same i
    apply parse_congr
    rw [own_locationAfter distinct plain reordered i, own_locationAfter distinct plain writes i,
      same i]

end Runs

/-- Two lists over a string with a bare key, a key without a field and a foreign page. -/
theorem parse_locationAfter_two :
    let scopes : Bool → Scope := fun b =>
      if b then ⟨"team", Dict.empty, [pageField], by decide⟩
      else ⟨"credential", Dict.empty, [pageField], by decide⟩
    let search := "??team.page=2&bare&=x&credential.=1&credential.page=%41,7"
    let first : Params := Dict.empty.insert "name" (.many [.text "a&b", .text "?"])
    let second : Params := Dict.empty.insert pageField (.one (.int 3))
    let writes : List (Write Bool) := [⟨false, first⟩, ⟨true, second⟩, ⟨false, second⟩]
    Plain search ∧ parse (scopes false) (locationAfter scopes search writes)
        = parse (scopes false) (encode (scopes false) second) ∧
      parse (scopes true) (locationAfter scopes search [⟨false, first⟩])
        = parse (scopes true) search := by
  intro scopes search first second writes
  have distinct : ∀ i j, (scopes i).owner = (scopes j).owner → i = j := by decide
  have plain : Plain search := by decide +kernel
  have all := parse_locationAfter distinct plain writes
  exact ⟨plain, all.1 writes (List.prefix_refl _) false, all.1 [⟨false, first⟩] ⟨_, rfl⟩ true⟩

end AdminConsole.Query
