/-
# `Proofs.Command.Removal` — a removal touches what it was asked to touch

What has to hold before anything is removed is a property of the arguments and of
the service alone (`RemoveArgs.Granted`).  If it holds, the removal makes its one
call for each of the resources, and its report accounts for each of them
(`remove_of_granted`); if not, the removal fails before it changes anything
(`remove_of_not_granted`).

The program selects every row that it was shown, without comparing the rows with
the resources any further.  That no other row is among them is a matter of
counting, see `perm_of_covered`.
-/
import AdminConsole.Command.Run
import AdminConsole.Proofs.Batch.Outcome
import AdminConsole.Proofs.Command.Ids
import AdminConsole.Proofs.DeleteDetails
import AdminConsole.Proofs.Screen.InMemory

namespace AdminConsole.Command

open Batch (ItemOutcome ItemFailure)

/-! ## What is to be done, and when -/

namespace RemoveArgs

/-- The rows that the service lists for a removal. -/
def listed (a : RemoveArgs) (m : Memory) : List Item := listedRows m a.endpoint.path a.requested

/-- The call by which a resource is removed, as it is noted down: it is deleted, or detached from
the parent. -/
def deed (a : RemoveArgs) (id : ResourceId) : CallRecord :=
  match a.parent with
  | none => ⟨"DELETE", (Endpoint.detail a.kind id).path, .none⟩
  | some p => ⟨"POST", (Endpoint.related p.kind p.id a.kind.name).path,
      .body (.object [("id", .int id), ("disassociate", .bool true)])⟩

/-- What has to hold before anything is removed: the removal is confirmed, its resources fit on one
page, the calls for that page are answered, every resource is listed, and every listed row may be
deleted unless the rows are only detached. -/
structure Granted (a : RemoveArgs) (m : Memory) : Prop where
  confirmed : a.confirmed = true
  fits : a.requested.length ≤ Text.maxNat32
  listing : m.refuses "GET" a.endpoint.path = false
  schema : m.refuses "OPTIONS" (Endpoint.collection a.kind).path = false
  found : ∀ id ∈ a.ids, ∃ i ∈ a.listed m, i.id = id
  deletable : a.parent = none → ∀ i ∈ a.listed m, i.canDelete = true

instance (a : RemoveArgs) (m : Memory) : Decidable (a.Granted m) :=
  decidable_of_iff
    (a.confirmed = true ∧ (a.requested.length : Int) ≤ Text.maxNat32 ∧
      m.refuses "GET" a.endpoint.path = false ∧
      m.refuses "OPTIONS" (Endpoint.collection a.kind).path = false ∧
      (∀ id ∈ a.ids, ∃ i ∈ a.listed m, i.id = id) ∧
      (a.parent = none → ∀ i ∈ a.listed m, i.canDelete = true))
    ⟨fun ⟨hc, hf, hl, hs, hi, hd⟩ => ⟨hc, hf, hl, hs, hi, hd⟩,
      fun h => ⟨h.confirmed, h.fits, h.listing, h.schema, h.found, h.deletable⟩⟩

end RemoveArgs

variable {a : RemoveArgs} {m : Memory}

theorem reads_deed (a : RemoveArgs) (id : ResourceId) : (a.deed id).reads = false := by
  simp only [RemoveArgs.deed]
  cases a.parent <;> rfl

theorem filter_deeds (a : RemoveArgs) (ids : List ResourceId) :
    ((ids.map a.deed).filter fun r => !r.reads) = ids.map a.deed := by
  rw [List.filter_eq_self]
  intro r hr
  obtain ⟨id, -, rfl⟩ := List.mem_map.mp hr
  rw [reads_deed]
  rfl

/-- If every resource is listed, the listed rows are the resources, each of them once. -/
theorem perm_listed (h : ∀ id ∈ a.ids, ∃ i ∈ a.listed m, i.id = id) :
    ((a.listed m).map Item.id).Perm a.requested :=
  perm_of_covered (nodup_distinctIds a.ids) fun id hid => h id (mem_distinctIds.mp hid)

/-! ## Bringing the resources into view -/

/-- The screen of a removal with its resources in view, and the service behind it. -/
def broughtUp (a : RemoveArgs) (pageSize : Nat) (m : Memory) : Screen × Memory :=
  let moved := (a.screen pageSize).navigate (fun _ => Service.inMemory)
    (locationOfIds (a.kind.scope pageSize) a.requested) m
  (moved.1.1, moved.2)

section View

variable {pageSize : Nat}

theorem noted_broughtUp (a : RemoveArgs) (pageSize : Nat) (m : Memory) :
    m.Noted (broughtUp a pageSize m).2 [] :=
  (Screen.navigate_inMemory (a.screen pageSize) _ m).1

theorem broughtUp_of_served (size : (pageSize : Int) ≤ Text.maxNat32)
    (fits : a.requested.length ≤ Text.maxNat32) (h : m.refusesPage (a.screen pageSize) = false) :
    (broughtUp a pageSize m).1.error? = none ∧
      (broughtUp a pageSize m).1.selection.items = a.listed m ∧
      (broughtUp a pageSize m).1.kind = a.kind ∧
      (broughtUp a pageSize m).1.endpoint = a.endpoint := by
  have hrows := results_of_asksFor (asksFor_locationOfIds a.kind size fits) m a.endpoint.path
  have hscreen : (broughtUp a pageSize m).1 = _ :=
    (Screen.navigate_inMemory (a.screen pageSize) _ m).2.1 h
  rw [Screen.fetched_ok] at hscreen
  rw [hscreen]
  exact ⟨rfl, hrows, rfl, rfl⟩

theorem served_of_error? (h : (broughtUp a pageSize m).1.error? = none) :
    m.refusesPage (a.screen pageSize) = false := by
  cases hrefused : m.refusesPage (a.screen pageSize) with
  | false => rfl
  | true =>
      obtain ⟨e, hload⟩ := (Screen.navigate_inMemory (a.screen pageSize)
        (locationOfIds (a.kind.scope pageSize) a.requested) m).2.2 hrefused
      have hscreen : (broughtUp a pageSize m).1 = _ := hload
      rw [Screen.fetched_error] at hscreen
      rw [hscreen] at h
      cases h

end View

/-! ## Objections -/

theorem missingIds_eq_nil_iff {s : Screen} {ids : List ResourceId} :
    missingIds s ids = [] ↔ ∀ id ∈ ids, ∃ i ∈ s.selection.items, i.id = id := by
  simp [missingIds, List.filter_eq_nil_iff]

theorem undeletable_eq_nil_iff {rows : List Item} :
    (Batch.undeletable rows).map Item.id = [] ↔ ∀ i ∈ rows, i.canDelete = true := by
  simp [Batch.undeletable, List.filter_eq_nil_iff]

/-- Nothing stands against a removal exactly if the fetch went well, all resources are in view and,
unless there is a parent, all rows in view may be deleted. -/
theorem objection?_eq_none_iff {s : Screen} :
    objection? a s = none ↔ s.error? = none ∧
      (∀ id ∈ a.requested, ∃ i ∈ s.selection.items, i.id = id) ∧
      (a.parent = none → ∀ i ∈ s.selection.items, i.canDelete = true) := by
  rw [← missingIds_eq_nil_iff, ← undeletable_eq_nil_iff]
  simp only [objection?]
  cases s.error? with
  | some e => simp
  | none =>
      cases missingIds s a.requested with
      | cons id ids => simp
      | nil =>
          cases a.parent with
          | some p => simp
          | none => cases (Batch.undeletable s.selection.items).map Item.id <;> simp

theorem granted_iff {pageSize : Nat} (size : (pageSize : Int) ≤ Text.maxNat32)
    (fits : a.requested.length ≤ Text.maxNat32) :
    a.Granted m ↔ a.confirmed = true ∧ objection? a (broughtUp a pageSize m).1 = none := by
  rw [objection?_eq_none_iff]
  constructor
  · intro h
    have hserved : m.refusesPage (a.screen pageSize) = false :=
      Bool.or_eq_false_iff.mpr ⟨h.listing, h.schema⟩
    obtain ⟨herror, hitems, -, -⟩ := broughtUp_of_served size fits hserved
    rw [hitems]
    exact ⟨h.confirmed, herror, fun id hid => h.found id (mem_distinctIds.mp hid), h.deletable⟩
  · rintro ⟨hconfirmed, herror, hfound, hdeletable⟩
    have hserved := served_of_error? herror
    obtain ⟨-, hitems, -, -⟩ := broughtUp_of_served size fits hserved
    rw [hitems] at hfound hdeletable
    obtain ⟨hlisting, hschema⟩ := Bool.or_eq_false_iff.mp hserved
    exact ⟨hconfirmed, fits, hlisting, hschema,
      fun id hid => hfound id (mem_distinctIds.mpr hid), hdeletable⟩

theorem exitCode_of_error {r : Result} {e : CommandError} (h : r.error = some e) :
    r.exitCode = 2 ∨ r.exitCode = 3 := by
  simp only [Result.exitCode]
  rw [h]
  cases e with
  | validation message => exact .inl rfl
  | failure message => exact .inr rfl

/-! ## Removing what is in view -/

theorem noted_referrersOf (a : RemoveArgs) (s : Screen) (m : Memory) :
    m.Noted (referrersOf Service.inMemory a s m).2 [] := by
  simp only [referrersOf]
  cases a.parent with
  | some p => exact Memory.Noted.refl m
  | none => exact noted_deleteDetailsFor s.kind s.selectedIds m

theorem runBatch_of_deeds {call : ResourceId → Call Unit}
    (hrecord : ∀ id, (call id).record = a.deed id) (s : Screen) (m : Memory) :
    (∃ os : List (ItemOutcome ResourceId), os.map ItemOutcome.id = s.selectedIds ∧
        (s.runBatch (fun _ => Service.inMemory) call m).1.2.result = Batch.check os) ∧
      m.Noted (s.runBatch (fun _ => Service.inMemory) call m).2 (s.selectedIds.map a.deed) := by
  have hbatch := Screen.runBatch_inMemory s call m
  rwa [List.map_congr_left fun id _ => hrecord id, filter_deeds] at hbatch

theorem act_inMemory {s : Screen} (hkind : s.kind = a.kind) (hendpoint : s.endpoint = a.endpoint)
    (m : Memory) :
    (∃ os : List (ItemOutcome ResourceId), os.map ItemOutcome.id = s.selectedIds ∧
        (act Service.inMemory a s m).1.result = Batch.check os) ∧
      m.Noted (act Service.inMemory a s m).2 (s.selectedIds.map a.deed) := by
  cases hparent : a.parent with
  | none =>
      have hact : act Service.inMemory a s m = ((s.delete (fun _ => Service.inMemory) m).1.2,
          (s.delete (fun _ => Service.inMemory) m).2) := by
        simp only [act, RemoveArgs.action, hparent]
        rfl
      rw [hact]
      refine runBatch_of_deeds (fun id => ?_) s m
      simp only [RemoveArgs.deed]
      rw [hparent, hkind]
      rfl
  | some p =>
      have hact : act Service.inMemory a s m = ((s.disassociate (fun _ => Service.inMemory) m).1.2,
          (s.disassociate (fun _ => Service.inMemory) m).2) := by
        simp only [act, RemoveArgs.action, hparent]
        rfl
      rw [hact]
      refine runBatch_of_deeds (fun id => ?_) s m
      simp only [RemoveArgs.deed]
      simp only [RemoveArgs.endpoint] at hendpoint
      rw [hparent] at hendpoint ⊢
      rw [hendpoint]
      rfl

/-- The report of a batch that has settled accounts for each of its resources, and the error is that
of a batch in which something failed. -/
theorem settled_of_check {outcome : Batch.Outcome ResourceId}
    {os : List (ItemOutcome ResourceId)} (h : outcome.result = Batch.check os)
    (referrers : Except ApiError (List RelatedCount)) :
    ((((a.removal referrers).settled outcome).succeeded
        ++ ((a.removal referrers).settled outcome).failures.map ItemFailure.id).Perm
          (os.map ItemOutcome.id)) ∧
      (⟨[.removal ((a.removal referrers).settled outcome)], batchError? outcome⟩ : Result).exitCode
        = if ((a.removal referrers).settled outcome).failures.isEmpty then 0 else 3 := by
  unfold Removal.settled batchError? Result.exitCode
  rw [h]
  cases hcheck : Batch.check os with
  | ok ids =>
      refine ⟨?_, rfl⟩
      show (ids ++ []).Perm _
      rw [List.append_nil]
      exact Batch.perm_of_check_ok hcheck
  | error e =>
      obtain ⟨hfailed, hperm⟩ := Batch.perm_of_check_error hcheck
      refine ⟨hperm, ?_⟩
      show 3 = if e.failures.isEmpty then 0 else 3
      rw [if_neg fun hnone => hfailed (List.isEmpty_iff.mp hnone)]

section InView

variable {s : Screen}

theorem removeInView_eq (a : RemoveArgs) (s : Screen) (m : Memory) :
    removeInView Service.inMemory a s m =
      let s := { s with selection := s.selection.selectAll true }
      let found := referrersOf Service.inMemory a s m
      if a.confirmed then
        let done := act Service.inMemory a s found.2
        (⟨[.removal ((a.removal found.1).settled done.1)], batchError? done.1⟩, done.2)
      else (⟨[.removal (a.removal found.1)], some unconfirmedError⟩, found.2) := by
  simp only [removeInView]
  cases a.confirmed <;> rfl

theorem removeInView_of_confirmed (hkind : s.kind = a.kind) (hendpoint : s.endpoint = a.endpoint)
    (confirmed : a.confirmed = true) (m : Memory) :
    ∃ r, (removeInView Service.inMemory a s m).1.reports = [.removal r] ∧
      (r.succeeded ++ r.failures.map ItemFailure.id).Perm (s.selection.items.map Item.id) ∧
      (removeInView Service.inMemory a s m).1.exitCode = (if r.failures.isEmpty then 0 else 3) ∧
      m.Noted (removeInView Service.inMemory a s m).2
        ((s.selection.items.map Item.id).map a.deed) := by
  have hread := noted_referrersOf a { s with selection := s.selection.selectAll true } m
  obtain ⟨⟨os, hids, hresult⟩, hdone⟩ :=
    act_inMemory (s := { s with selection := s.selection.selectAll true }) hkind hendpoint
      (referrersOf Service.inMemory a { s with selection := s.selection.selectAll true } m).2
  obtain ⟨hperm, hexit⟩ := settled_of_check (a := a) hresult
    (referrersOf Service.inMemory a { s with selection := s.selection.selectAll true } m).1
  rw [hids] at hperm
  rw [removeInView_eq]
  simp only [confirmed, if_true]
  exact ⟨_, rfl, hperm, hexit, hread.nil_trans hdone⟩

theorem removeInView_of_not_confirmed (confirmed : a.confirmed = false) (m : Memory) :
    (removeInView Service.inMemory a s m).1.error = some unconfirmedError ∧
      m.Noted (removeInView Service.inMemory a s m).2 [] := by
  rw [removeInView_eq]
  simp only [confirmed, Bool.false_eq_true, if_false]
  exact ⟨trivial, noted_referrersOf a { s with selection := s.selection.selectAll true } m⟩

end InView

/-! ## The whole removal -/

section Whole

variable {pageSize : Nat}

theorem fitsOnePage_iff : a.fitsOnePage = true ↔ (a.requested.length : Int) ≤ Text.maxNat32 := by
  have hmax : (Text.maxNat32.toNat : Int) = Text.maxNat32 := by decide
  simp only [RemoveArgs.fitsOnePage]
  rw [decide_eq_true_iff, ← hmax]
  exact Int.ofNat_le.symm

/-- A removal whose resources fit on one page brings them into view, and goes on if nothing stands
against it. -/
theorem remove_eq (fits : a.requested.length ≤ Text.maxNat32) (m : Memory) :
    remove Service.inMemory pageSize a m =
      match objection? a (broughtUp a pageSize m).1 with
      | some e => (.failed e, (broughtUp a pageSize m).2)
      | none =>
        removeInView Service.inMemory a (broughtUp a pageSize m).1 (broughtUp a pageSize m).2 := by
  have hremove : remove Service.inMemory pageSize a m =
      (match objection? a (broughtUp a pageSize m).1 with
        | some e => pure (.failed e)
        | none => removeInView Service.inMemory a (broughtUp a pageSize m).1 : StateM Memory Result)
          (broughtUp a pageSize m).2 := by
    simp only [remove]
    rw [if_pos (fitsOnePage_iff.mpr fits)]
    rfl
  rw [hremove]
  cases objection? a (broughtUp a pageSize m).1 <;> rfl

/-- **A removal that is granted makes its one call for each of the resources.**  They are removed in
the order in which they are listed, and the report accounts for each of them. -/
theorem remove_of_granted (size : (pageSize : Int) ≤ Text.maxNat32) (h : a.Granted m) :
    ∃ r, (remove Service.inMemory pageSize a m).1.reports = [.removal r] ∧
      (r.succeeded ++ r.failures.map ItemFailure.id).Perm a.requested ∧
      (remove Service.inMemory pageSize a m).1.exitCode = (if r.failures.isEmpty then 0 else 3) ∧
      m.Noted (remove Service.inMemory pageSize a m).2
        (((a.listed m).map Item.id).map a.deed) := by
  obtain ⟨hconfirmed, hobjection⟩ := (granted_iff size h.fits).mp h
  have hserved := served_of_error? (objection?_eq_none_iff.mp hobjection).1
  obtain ⟨-, hitems, hkind, hendpoint⟩ := broughtUp_of_served size h.fits hserved
  rw [remove_eq h.fits, hobjection]
  obtain ⟨r, hreport, hperm, hexit, hnoted⟩ :=
    removeInView_of_confirmed hkind hendpoint hconfirmed (broughtUp a pageSize m).2
  rw [hitems] at hperm hnoted
  exact ⟨r, hreport, hperm.trans (perm_listed h.found), hexit,
    (noted_broughtUp a pageSize m).nil_trans hnoted⟩

/-- **A removal that is not granted fails and changes nothing.** -/
theorem remove_of_not_granted (size : (pageSize : Int) ≤ Text.maxNat32) (h : ¬a.Granted m) :
    (∃ e, (remove Service.inMemory pageSize a m).1.error = some e) ∧
      m.Noted (remove Service.inMemory pageSize a m).2 [] := by
  by_cases fits : (a.requested.length : Int) ≤ Text.maxNat32
  · have hread := noted_broughtUp a pageSize m
    rw [remove_eq fits]
    cases hobjection : objection? a (broughtUp a pageSize m).1 with
    | some e => exact ⟨⟨e, rfl⟩, hread⟩
    | none =>
        -- all has been checked but the confirmation
        have hconfirmed : a.confirmed = false := by
          cases hyes : a.confirmed with
          | false => rfl
          | true => exact absurd ((granted_iff size fits).mpr ⟨hyes, hobjection⟩) h
        obtain ⟨hunconfirmed, hnoted⟩ := removeInView_of_not_confirmed
          (s := (broughtUp a pageSize m).1) hconfirmed (broughtUp a pageSize m).2
        exact ⟨⟨_, hunconfirmed⟩, hread.nil_trans hnoted⟩
  · have hremove : remove Service.inMemory pageSize a m = (.failed tooManyError, m) := by
      simp only [remove]
      rw [if_neg fun hfits => fits (fitsOnePage_iff.mp hfits)]
      rfl
    rw [hremove]
    exact ⟨⟨_, rfl⟩, Memory.Noted.refl m⟩

/-- **A removal never touches what it was not asked to touch.**  If it is granted, it makes one call
for each of the resources and no other that does more than read, accounts for all of them and ends
with 0 or 3; otherwise it only reads, and ends with 2 or 3. -/
theorem remove_only_requested {l : Line} {client : Http.Client} (task : l.task = .remove a)
    (valid : Http.Client.ofConfig l.config = .ok client)
    (size : (l.defaultPageSize : Int) ≤ Text.maxNat32) (m : Memory) :
    (a.Granted m →
      ∃ order r, order.Nodup ∧ (∀ id, id ∈ order ↔ id ∈ a.ids) ∧
        m.Noted (l.run (fun _ => Service.inMemory) m).2 (order.map a.deed) ∧
        (l.run (fun _ => Service.inMemory) m).1.reports = [.removal r] ∧
        (r.succeeded ++ r.failures.map ItemFailure.id).Perm order ∧
        (l.run (fun _ => Service.inMemory) m).1.exitCode = if r.failures.isEmpty then 0 else 3) ∧
    (¬a.Granted m →
      m.Noted (l.run (fun _ => Service.inMemory) m).2 [] ∧
        ((l.run (fun _ => Service.inMemory) m).1.exitCode = 2 ∨
          (l.run (fun _ => Service.inMemory) m).1.exitCode = 3)) := by
  have hrun : l.run (fun _ => Service.inMemory) = remove Service.inMemory l.defaultPageSize a := by
    simp only [Line.run]
    rw [valid, task]
    rfl
  rw [hrun]
  constructor
  · intro granted
    have hlisted := perm_listed granted.found
    obtain ⟨r, hreport, hperm, hexit, hnoted⟩ := remove_of_granted size granted
    refine ⟨(a.listed m).map Item.id, r, ?_, fun id => ?_, hnoted, hreport,
      hperm.trans hlisted.symm, hexit⟩
    · exact hlisted.nodup_iff.mpr (nodup_distinctIds a.ids)
    · rw [hlisted.mem_iff]
      exact mem_distinctIds
  · intro refused
    obtain ⟨⟨e, herror⟩, hnoted⟩ := remove_of_not_granted size refused
    exact ⟨hnoted, exitCode_of_error herror⟩

/-- Two teams out of three, one of them asked for twice; one may not be deleted after all. -/
theorem remove_only_requested_teams :
    let a : RemoveArgs := ⟨.teams, [5, 3, 5], none, true⟩
    let url : Url :=
      ⟨"http", "", "", some (.domain "localhost"), none, .segments [""], none, none⟩
    let l : Line := ⟨url, none, 10, 20, .json, "warn", none, .remove a⟩
    let m : Memory := { Memory.empty with
      rows := Dict.ofList [("teams/", [.bare 7, .bare 5, .bare 3])]
      holds := Dict.ofList [("DELETE", 1)]
      rules := [⟨"DELETE", "teams/5/", none, .ofStatus "DELETE" "teams/5/" 403 none⟩] }
    let ending := l.run (fun _ => Service.inMemory) m
    a.Granted m ∧
      ∃ order r, order.Nodup ∧ (∀ id, id ∈ order ↔ id ∈ a.ids) ∧
        m.Noted ending.2 (order.map a.deed) ∧ ending.1.reports = [.removal r] ∧
        (r.succeeded ++ r.failures.map ItemFailure.id).Perm order ∧
        ending.1.exitCode = if r.failures.isEmpty then 0 else 3 := by
  intro a url l m ending
  have granted : a.Granted m := by decide +kernel
  have accepted : (Http.Client.ofConfig l.config).toBool = true := by decide +kernel
  cases valid : Http.Client.ofConfig l.config with
  | error e =>
      rw [valid] at accepted
      cases accepted
  | ok client => exact ⟨granted, (remove_only_requested rfl valid (by decide) m).1 granted⟩

end Whole

end AdminConsole.Command
