/-
# `Proofs.Screen.Location` — a screen keeps its query in its location

A screen has no params of its own.  Each use of the toolbar reads them from the
location, edits them, writes them back and fetches; whatever the service
answers, the location stays (`location_load`).  So the params at the end of a row
of edits are those that the same edits make in memory, which is how a command
line computes its location (`params_after_edits`).
-/
import AdminConsole.Proofs.Search.Edits
import AdminConsole.Screen.Run

namespace AdminConsole.Screen

open Search (Edit)
open Command (applyAll relocateAll)

@[simp] theorem location_moveTo (s : Screen) (search : String) :
    (s.moveTo search).location = search := rfl

@[simp] theorem scope_moveTo (s : Screen) (search : String) : (s.moveTo search).scope = s.scope :=
  rfl

theorem load_eq (s : Screen) (w : World) :
    load memoryService s w =
      let replied := World.perform s.startFetch.phase s.startFetch.pagePlan w
      let settled := s.startFetch.settleFetch replied.1
      ((settled.1.showRows, settled.2), replied.2) := rfl

theorem location_settleFetch (s : Screen) (reply : Except ApiError Page) :
    (s.settleFetch reply).1.location = s.location ∧ (s.settleFetch reply).1.scope = s.scope := by
  unfold settleFetch
  cases s.fetch.settle s.fetch.generation reply with
  | mk how change => exact ⟨rfl, rfl⟩

theorem location_load (s : Screen) (w : World) :
    (load memoryService s w).1.1.location = s.location ∧
      (load memoryService s w).1.1.scope = s.scope := by
  rw [load_eq]
  exact location_settleFetch s.startFetch
    (World.perform s.startFetch.phase s.startFetch.pagePlan w).1

namespace Run

theorem after_cons (run : Run) (e : Event) (events : List Event) :
    run.after (e :: events) = (run.step e).1.after events := List.foldl_cons ..

theorem settling_eq (run : Run) (moved : Bool) (op : StateM World (Screen × Settlement)) :
    (run.settling moved op).1.isOpen = run.isOpen ∧
      (run.settling moved op).1.screen = (op ⟨run.memory, []⟩).1.1 :=
  ⟨rfl, rfl⟩

theorem step_edit {run : Run} (hopen : run.isOpen = true) (e : Edit) :
    (run.step (.edit e)).1.isOpen = true ∧
      (run.step (.edit e)).1.screen.scope = run.screen.scope ∧
      (run.step (.edit e)).1.screen.location
        = e.relocate run.screen.scope run.screen.location := by
  have hstep : run.step (.edit e) = run.settling true (load memoryService
      (run.screen.moveTo (e.relocate run.screen.scope run.screen.location))) := by
    simp only [step, screenStep, hopen, if_true]
    rfl
  obtain ⟨hkept, hscreen⟩ := settling_eq run true (load memoryService
    (run.screen.moveTo (e.relocate run.screen.scope run.screen.location)))
  obtain ⟨hlocation, hscope⟩ := location_load
    (run.screen.moveTo (e.relocate run.screen.scope run.screen.location)) ⟨run.memory, []⟩
  rw [hstep, hkept, hscreen, hlocation, hscope, location_moveTo, scope_moveTo]
  exact ⟨hopen, rfl, rfl⟩

theorem after_edits {run : Run} (hopen : run.isOpen = true) (edits : List Edit) :
    (run.after (edits.map .edit)).screen.scope = run.screen.scope ∧
      (run.after (edits.map .edit)).screen.location
        = edits.foldl (Edit.relocate run.screen.scope) run.screen.location := by
  induction edits generalizing run with
  | nil => exact ⟨rfl, rfl⟩
  | cons e edits ih =>
      obtain ⟨hopen', hscope, hlocation⟩ := step_edit hopen e
      have hnext := ih hopen'
      rw [hscope, hlocation] at hnext
      rw [List.map_cons, after_cons, List.foldl_cons]
      exact hnext

end Run

/-- **The screen that keeps its query in the location does what the edits do in memory.**  The params
read at the end are those of the edits applied one after the other, also when a command line applies
them and writes the location once. -/
theorem params_after_edits (k : Kind) {pageSize : Nat} (size : (pageSize : Int) ≤ Text.maxNat32)
    {run : Run} (isOpen : run.isOpen = true) (scope : run.screen.scope = k.scope pageSize)
    (plain : Query.Plain run.screen.location) {edits : List Edit}
    (offered : ∀ e ∈ edits, e.Offered) :
    (run.after (edits.map .edit)).screen.params
        = applyAll (k.scope pageSize) run.screen.params edits ∧
      Query.parse (k.scope pageSize)
          (edits.foldl (Edit.relocate (k.scope pageSize)) run.screen.location)
        = applyAll (k.scope pageSize) run.screen.params edits ∧
      Query.parse (k.scope pageSize) (relocateAll (k.scope pageSize) run.screen.location edits)
        = (run.after (edits.map .edit)).screen.params := by
  have paged := Search.paged_scope k size
  have hparams : run.screen.params = Query.parse (k.scope pageSize) run.screen.location := by
    simp only [params]
    rw [scope]
  have hrow : Query.parse (k.scope pageSize)
      (edits.foldl (Edit.relocate (k.scope pageSize)) run.screen.location)
        = applyAll (k.scope pageSize) run.screen.params edits := by
    rw [hparams]
    exact Search.parse_foldl_relocate paged plain offered
  have hrun : (run.after (edits.map .edit)).screen.params
      = applyAll (k.scope pageSize) run.screen.params edits := by
    obtain ⟨hscope, hlocation⟩ := Run.after_edits isOpen edits
    simp only [params] at hrow ⊢
    rw [hscope, hlocation, scope]
    rw [scope] at hrow
    exact hrow
  refine ⟨hrun, hrow, ?_⟩
  rw [hrun, hparams]
  exact Search.parse_relocateAll paged plain offered

/-- A filter with separators in its value, a page far away, and the filter taken off again. -/
theorem params_after_edits_teams :
    let search := "??host.page=7&team.page=%37&=x&team.page_size=25,abc"
    let screen := (Screen.ofKind .teams 20).moveTo search
    let run := Run.initial screen Memory.empty
    let name : Search.Term := ⟨⟨false, true, "name", none⟩, "a,b&c=\u00e9?"⟩
    let edits : List Edit :=
      [.search name, .page 9223372036854775807, .pageSize 20, .sort "id" true,
       .without "not__name" "a,b&c=\u00e9?"]
    Query.Plain search ∧ (∀ e ∈ edits, e.Offered) ∧
      (run.after (edits.map .edit)).screen.params
        = applyAll (Kind.scope .teams 20) (Query.parse (Kind.scope .teams 20) search) edits := by
  intro search screen run name edits
  have plain : Query.Plain search := by decide +kernel
  have offered : ∀ e ∈ edits, e.Offered := by decide +kernel
  have isOpen : run.isOpen = true := rfl
  exact ⟨plain, offered, (params_after_edits .teams (by decide) isOpen rfl plain offered).1⟩

end AdminConsole.Screen
