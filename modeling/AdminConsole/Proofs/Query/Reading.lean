/-
# `Proofs.Query.Reading` — what a search string says about a field

Reading folds over the pieces and keeps a table.  Seen field by field, the fold
is a concatenation: a field has the scalars of its own pieces in their order,
one of them standing for itself and several for a sequence (`get?_readOwn`).
A query is that over the defaults (`get?_parse`).

Hence pieces of other lists do not matter at all, and two search strings with
the same own pieces read the same (`parse_congr`).
-/
import AdminConsole.Proofs.Dict
import AdminConsole.Proofs.Text.Pieces
import AdminConsole.Query.Location

namespace AdminConsole.Query

/-- The value of a row of scalars; there is none without scalars. -/
def Value.ofScalars? : List Scalar → Option Value
  | [] => none
  | s :: ss => some (Value.ofParts (s :: ss))

/-- What a piece says about a field. -/
def Scope.saidIn (scope : Scope) (field : String) (p : Piece) : List Scalar :=
  if scope.field? p = some field then (Text.splitAll ',' p.2).map (scope.readScalar field) else []

/-- What pieces say about a field, one after another. -/
def Scope.said (scope : Scope) (field : String) (ps : List Piece) : List Scalar :=
  ps.flatMap (scope.saidIn field)

/-- The pieces of a search string that belong to the scope. -/
def Scope.own (scope : Scope) (search : String) : List Piece :=
  (pieces search).filter fun p => (scope.field? p).isSome

namespace Value

@[simp] theorem scalars_ofParts (ss : List Scalar) : (ofParts ss).scalars = ss := by
  simp only [ofParts]
  split <;> rfl

theorem ofScalars?_of_ne_nil {ss : List Scalar} (h : ss ≠ []) :
    ofScalars? ss = some (ofParts ss) := by
  cases ss with
  | nil => exact absurd rfl h
  | cons s ss => rfl

theorem append_ofParts {ss ts : List Scalar} (hs : ss ≠ []) (ht : ts ≠ []) :
    (ofParts ss).append (ofParts ts) = ofParts (ss ++ ts) := by
  simp only [append]
  rw [scalars_ofParts, scalars_ofParts]
  match ss, ts, hs, ht with
  | _ :: [], _ :: _, _, _ => rfl
  | _ :: _ :: _, _ :: _, _, _ => rfl

end Value

namespace Scope

variable {scope : Scope} {field : String}

theorem saidIn_of_field? {p : Piece} (h : scope.field? p = some field) :
    scope.saidIn field p = (Text.splitAll ',' p.2).map (scope.readScalar field) :=
  if_pos h

theorem saidIn_of_ne {p : Piece} (h : scope.field? p ≠ some field) :
    scope.saidIn field p = [] :=
  if_neg h

theorem saidIn_of_foreign {p : Piece} (h : scope.field? p = none) : scope.saidIn field p = [] := by
  apply saidIn_of_ne
  rw [h]
  exact nofun

theorem saidIn_ne_nil {p : Piece} (h : scope.field? p = some field) :
    scope.saidIn field p ≠ [] := by
  rw [saidIn_of_field? h]
  intro he
  exact Text.splitAll_ne_nil p.2 (List.map_eq_nil_iff.mp he)

theorem get?_appendValue (params : Params) (other : String) (v : Value) (field : String) :
    (appendValue params other v).get? field =
      if field = other then some (((params.get? other).map fun w => w.append v).getD v)
      else params.get? field := by
  simp only [appendValue]
  cases params.get? other with
  | none => exact Dict.get?_insert params field other v
  | some w => exact Dict.get?_insert params field other (w.append v)

theorem get?_readPiece {params : Params} {ss : List Scalar} (p : Piece)
    (h : params.get? field = Value.ofScalars? ss) :
    (scope.readPiece params p).get? field = Value.ofScalars? (ss ++ scope.saidIn field p) := by
  by_cases hp : scope.field? p = some field
  · have hread : scope.readValue field p.2 = Value.ofParts (scope.saidIn field p) := by
      rw [saidIn_of_field? hp]
      rfl
    have hne := saidIn_ne_nil hp
    have happ : ss ++ scope.saidIn field p ≠ [] := by simp [hne]
    simp only [readPiece]
    simp only [hp]
    rw [get?_appendValue, if_pos rfl, h, hread, Value.ofScalars?_of_ne_nil happ]
    cases ss with
    | nil => rfl
    | cons s ss =>
        show some ((Value.ofParts (s :: ss)).append _) = _
        rw [Value.append_ofParts (List.cons_ne_nil s ss) hne]
  · rw [saidIn_of_ne hp, List.append_nil, ← h]
    simp only [readPiece]
    cases hf : scope.field? p with
    | none => rfl
    | some other =>
        have hne : field ≠ other := fun he => hp (he ▸ hf)
        show (appendValue params other _).get? field = _
        rw [get?_appendValue, if_neg hne]

theorem get?_foldl_readPiece (ps : List Piece) {params : Params} {ss : List Scalar}
    (h : params.get? field = Value.ofScalars? ss) :
    (ps.foldl scope.readPiece params).get? field = Value.ofScalars? (ss ++ scope.said field ps) := by
  induction ps generalizing params ss with
  | nil =>
      show params.get? field = Value.ofScalars? (ss ++ [])
      rw [List.append_nil, h]
  | cons p ps ih =>
      have hp : (ps.foldl scope.readPiece (scope.readPiece params p)).get? field
          = Value.ofScalars? ((ss ++ scope.saidIn field p) ++ scope.said field ps) :=
        ih (get?_readPiece p h)
      rwa [List.append_assoc] at hp

/-- A field has the scalars of its own pieces in their order. -/
theorem get?_readOwn (scope : Scope) (search field : String) :
    (scope.readOwn search).get? field = Value.ofScalars? (scope.said field (pieces search)) := by
  have hempty : (Dict.empty : Params).get? field = Value.ofScalars? [] := rfl
  exact get?_foldl_readPiece (pieces search) hempty

theorem said_own (scope : Scope) (search field : String) :
    scope.said field (scope.own search) = scope.said field (pieces search) := by
  simp only [said, own]
  induction pieces search with
  | nil => rfl
  | cons p ps ih =>
      rw [List.filter_cons, List.flatMap_cons]
      cases hf : scope.field? p with
      | none =>
          rw [saidIn_of_foreign hf]
          exact ih
      | some f =>
          show List.flatMap _ (p :: List.filter _ ps) = _
          rw [List.flatMap_cons, ih]

end Scope

/-! ## Queries -/

/-- A query holds what the search string says, and otherwise the defaults. -/
theorem get?_parse (scope : Scope) (search field : String) :
    (parse scope search).get? field
      = (Value.ofScalars? (scope.said field (pieces search))).or (scope.defaults.get? field) := by
  simp only [parse]
  rw [Dict.get?_overlay, Scope.get?_readOwn]

/-- A query depends on nothing but what the search string says about each field. -/
theorem parse_congr_said {scope : Scope} {search search' : String}
    (h : ∀ field, scope.said field (pieces search) = scope.said field (pieces search')) :
    parse scope search = parse scope search' := by
  apply Dict.ext_get?
  intro field
  rw [get?_parse, get?_parse, h]

theorem parse_congr {scope : Scope} {search search' : String}
    (h : scope.own search = scope.own search') : parse scope search = parse scope search' := by
  apply parse_congr_said
  intro field
  rw [← Scope.said_own, h, Scope.said_own]

end AdminConsole.Query
