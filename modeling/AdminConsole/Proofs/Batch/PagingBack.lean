/-
# `Proofs.Batch.PagingBack` — one page back, and nothing else

A batch that has emptied its page past the first one tells the list to go to the
page before.  The query of that page is the query of the search string with
another page (`pageBefore`), and it is read back whole: what was read before is
legible, and so is a page that is smaller than one that was read
(`legible_pageBefore`).  It does not matter how the page was written, nor whether
the page before is the default and so leaves the search string.

Only legibility is used of the other fields, so the defaults need not have names;
they do need to be normal, for a value with the text of its default is not
written.
-/
import AdminConsole.Proofs.Batch.Overlap
import AdminConsole.Proofs.Query.RoundTrip
import AdminConsole.Proofs.Search.Edits

namespace AdminConsole.Batch

open Query

variable {κ : Type} {scope : Scope} {search : String}

/-- The query of the page before the one that params ask for. -/
def pageBefore (params : Params) : Params :=
  params.insert pageField (.one (.int (currentPage params - 1)))

/-- There is a page to go back to if everything was selected past the first page. -/
theorem previousPage?_eq (scope : Scope) (allSelected : Bool) (search : String) :
    previousPage? scope allSelected search =
      if allSelected = true ∧ 1 < currentPage (parse scope search) then
        some (update scope search (pageBefore (parse scope search)))
      else none := by
  simp only [previousPage?, pageBefore, Bool.and_eq_true, decide_eq_true_eq]

/-! ## The page before -/

section Reading

variable (integers : scope.isInteger pageField = true)
  (defaults : ∀ {field d}, scope.defaults.get? field = some d → d.Canonical scope field)
  (later : 1 < currentPage (parse scope search))

include integers defaults later

theorem legible_pageBefore (field : String) :
    Legible scope (pageBefore (parse scope search)) field := by
  by_cases hpage : field = pageField
  · subst hpage
    have hcanon : ∀ {v}, (parse scope search).get? pageField = some v →
        v.Canonical scope pageField := (legible_parse scope search pageField).canonical defaults
    have hfits : Text.IsInt64 (currentPage (parse scope search) - 1) := by
      have hcurrent := Search.isInt64_currentPage hcanon
      simp only [Text.IsInt64, Text.minInt64, Text.maxInt64] at hcurrent ⊢
      omega
    exact Legible.of_canonical (by decide) (Dict.get?_insert_self ..)
      (Value.canonical_one (Scalar.stable_int integers hfits))
  · exact (legible_parse scope search field).congr (Dict.get?_insert_of_ne hpage ..)

theorem parse_pageBefore (front : scope.FrontUnmarked search) :
    parse scope (update scope search (pageBefore (parse scope search)))
      = pageBefore (parse scope search) :=
  Dict.ext_get? fun field =>
    (legible_pageBefore integers defaults later field).get?_parse_update defaults front

end Reading

theorem currentPage_pageBefore {params : Params} (later : 1 < currentPage params) :
    currentPage (pageBefore params) = currentPage params - 1 :=
  Search.currentPage_of_get? (Dict.get?_insert_self ..) (by omega)

theorem parse_previousPage_of_ne {other : Scope} (hne : other.owner ≠ scope.owner)
    (plain : Plain search) (params : Params) :
    parse other (update scope search params) = parse other search :=
  parse_congr (own_update_of_ne (Ne.symm hne) plain params)

/-! ## What follows a batch -/

section FollowUp

variable {order : Order κ}

theorem next_of_emptied (emptied : order.allSelected = true)
    (later : 1 < currentPage (parse scope order.search)) :
    order.next scope
      = .navigate (update scope order.search (pageBefore (parse scope order.search))) := by
  simp only [Order.next]
  rw [previousPage?_eq, if_pos ⟨emptied, later⟩]

theorem next_of_not_emptied
    (h : ¬(order.allSelected = true ∧ 1 < currentPage (parse scope order.search))) :
    order.next scope = .refetched := by
  simp only [Order.next]
  rw [previousPage?_eq, if_neg h]

theorem followUp_ending (scope : Scope) (order : Order κ) :
    (order.ending scope).followUp = order.next scope := rfl

variable {past : List (Event κ)} {name : String} {b : Life κ}

theorem poll_released (scope : Scope) (alive : live? name past = some b) (newest : b.isOvertaken = false)
    (released : b.isReleased name = true) :
    let run := (Run.initial scope).after past
    (run.step (.poll name)).2.poll = some (.ended (b.order.ending scope)) ∧
      (run.step (.poll name)).1.refetches
        = if b.order.next scope = .refetched then run.refetches + 1 else run.refetches := by
  intro run
  have hfound : b.found scope name = .ended (b.order.ending scope) := by
    simp only [Life.found, newest, released, Bool.false_eq_true, if_false, if_true]
  have hkeeps : Keeps scope past run := keeps scope past
  obtain ⟨hpending, -⟩ | ⟨o, notified, hended, hstep, -⟩ := hkeeps.poll_some alive
  · rw [hfound] at hpending
    cases hpending
  · rw [hfound] at hended
    cases hended
    rw [hstep]
    exact ⟨rfl, rfl⟩

end FollowUp

/-- **Paging back moves one page and nothing else.**  A batch that nothing has overtaken sends the list
to another search string exactly when everything in view was selected past the first page, and the list
is fetched again otherwise.  That search string is read as the query before, with the page before; so it
asks for that page, which is at least the first, and lists of other namespaces read what they have
read. -/
theorem pages_back_one (integers : scope.isInteger pageField = true)
    (defaults : ∀ field d, scope.defaults.get? field = some d → scope.IsNormal field d)
    {past : List (Event κ)} {name : String} {b : Life κ} (alive : live? name past = some b)
    (newest : b.isOvertaken = false) (released : b.isReleased name = true)
    (plain : Plain b.order.search) :
    let run := (Run.initial scope).after past
    let polled := run.step (.poll name)
    let query := parse scope b.order.search
    let emptied := b.order.allSelected = true ∧ 1 < currentPage query
    ∃ outcome, polled.2.poll = some (.ended outcome) ∧
      ((∃ search, outcome.followUp = .navigate search) ↔ emptied) ∧
      (¬emptied → outcome.followUp = .refetched ∧ polled.1.refetches = run.refetches + 1) ∧
      ∀ search, outcome.followUp = .navigate search →
        polled.1.refetches = run.refetches ∧
        parse scope search = query.insert pageField (.one (.int (currentPage query - 1))) ∧
        currentPage (parse scope search) = currentPage query - 1 ∧ 1 ≤ currentPage query - 1 ∧
        ∀ other : Scope, other.owner ≠ scope.owner →
          parse other search = parse other b.order.search := by
  intro run polled query emptied
  obtain ⟨hpoll, hrefetches⟩ := poll_released scope alive newest released
  refine ⟨b.order.ending scope, hpoll, ?_⟩
  rw [followUp_ending]
  by_cases h : emptied
  · have hnext : b.order.next scope = _ := next_of_emptied h.1 h.2
    have hstays : polled.1.refetches = run.refetches := by
      rw [hnext, if_neg fun he => by cases he] at hrefetches
      exact hrefetches
    refine ⟨⟨fun _ => h, fun _ => ⟨_, hnext⟩⟩, fun hnot => absurd h hnot, fun search hsearch => ?_⟩
    obtain rfl := FollowUp.navigate.inj (hnext.symm.trans hsearch)
    have hread := parse_pageBefore integers (fun hd => canonical_of_isNormal (defaults _ _ hd)) h.2
      (frontUnmarked_of_plain scope plain)
    refine ⟨hstays, hread, ?_, Int.le_sub_one_of_lt h.2, ?_⟩
    · rw [hread]
      exact currentPage_pageBefore h.2
    · intro other hne
      exact parse_previousPage_of_ne hne plain _
  · have hnext : b.order.next scope = .refetched := next_of_not_emptied h
    rw [hnext, if_pos rfl] at hrefetches
    refine ⟨⟨fun ⟨search, hsearch⟩ => ?_, fun he => absurd he h⟩, fun _ => ⟨hnext, hrefetches⟩,
      fun search hsearch => ?_⟩
    · cases hnext.symm.trans hsearch
    · cases hnext.symm.trans hsearch

/-- A page that is written as a signed numeral, a default page to go back to, and a default without a
name. -/
theorem pages_back_one_teams :
    let scope : Scope := ⟨"team", Dict.ofList [("", .one (.text "x")), ("page", .one (.int 1))],
      [pageField], by decide⟩
    let search := "?host.page=2&team.page=%2B2&team.name=a&team.name=b,c"
    let order : Order Nat := ⟨[⟨41, none⟩], true, search⟩
    let past : List (Event Nat) := [.start "batch" order, .release "batch"]
    let run := (Run.initial scope).after past
    ∃ outcome, (run.step (.poll "batch")).2.poll = some (.ended outcome) ∧
      outcome.followUp = .navigate "host.page=2&team.name=a,b,c" ∧
      parse scope "host.page=2&team.name=a,b,c"
        = (parse scope search).insert pageField (.one (.int 1)) := by
  intro scope search order past run
  have hall : ∀ e ∈ scope.defaults.toList, scope.IsNormal e.1 e.2 := by decide +kernel
  have defaults : ∀ field d, scope.defaults.get? field = some d → scope.IsNormal field d :=
    fun field d hd => hall (field, d) (Dict.get?_eq_some_iff.mp hd)
  have plain : Plain search := by decide +kernel
  have alive : live? "batch" past = some ⟨order, [.release "batch"]⟩ := rfl
  obtain ⟨outcome, hpoll, hback, -, hread⟩ :=
    pages_back_one (by decide) defaults alive rfl rfl plain
  have hnext : order.next scope = .navigate "host.page=2&team.name=a,b,c" := by decide +kernel
  have houtcome : outcome = order.ending scope := by
    have hpolled := (poll_released scope alive rfl rfl).1
    cases hpoll.symm.trans hpolled
    rfl
  have hfollow : outcome.followUp = .navigate "host.page=2&team.name=a,b,c" := by
    rw [houtcome, followUp_ending]
    exact hnext
  refine ⟨outcome, hpoll, hfollow, (hread _ hfollow).2.1.trans ?_⟩
  have hpage : currentPage (parse scope search) = 2 := by decide +kernel
  show (parse scope search).insert pageField (.one (.int (currentPage (parse scope search) - 1))) = _
  rw [hpage]
  rfl

end AdminConsole.Batch
