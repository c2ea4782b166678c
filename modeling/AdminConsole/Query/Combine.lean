/-
# `Query.Combine` — params laid together and taken apart

Laying one set over another, joining sequences, and taking values away; and the
page that params ask for.
-/
import AdminConsole.Query.Scope

namespace AdminConsole.Query

/-! ## Combining -/

/-- Add a value to a field; values of repeated keys form one sequence. -/
def appendValue (params : Params) (field : String) (v : Value) : Params :=
  match params.get? field with
  | none => params.insert field v
  | some w => params.insert field (w.append v)

/-- Lay `right` over `left`. -/
def replace (left right : Params) : Params := left.overlay right

/-- The value of a field after a merge: two sequences are joined, else the right value counts. -/
def mergeValue (left : Option Value) (right : Value) : Value :=
  match left, right with
  | some (.many ls), .many rs => .many (ls ++ rs)
  | _, v => v

/-- Lay `right` over `left`, joining where both hold sequences. -/
def merge (left right : Params) : Params :=
  right.toList.foldl (fun d e => d.insert e.1 (mergeValue (d.get? e.1) e.2)) left

/-- The scalars of a value whose texts are not among those to go. -/
def Value.without (v : Value) (doomed : List String) : List Scalar :=
  v.scalars.filter fun s => !doomed.contains s.toText

/-- Take values away from one field; an emptied field falls back to its default or vanishes. -/
def removeField (scope : Scope) (params : Params) (field : String) (doomed : Value) : Params :=
  match params.get? field with
  | none => params
  | some v =>
    match v.without (doomed.scalars.map Scalar.toText) with
    | [] => match scope.defaults.get? field with
      | some d => params.insert field d
      | none => params.erase field
    | rest => params.insert field (Value.ofParts rest)

/-- Take the given values away, field by field. -/
def remove (scope : Scope) (params doomed : Params) : Params :=
  doomed.toList.foldl (fun d e => removeField scope d e.1 e.2) params

/-! ## The page -/

/-- The page that params ask for; the first one unless a positive number is given. -/
def currentPage (params : Params) : Int :=
  match params.get? pageField with
  | some v => match v.int? with
    | some n => if 0 < n then n else 1
    | none => 1
  | none => 1

end AdminConsole.Query
