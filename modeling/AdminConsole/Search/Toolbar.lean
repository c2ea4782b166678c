/-
# `Search.Toolbar` — a toolbar that keeps its params beside the location

Every action but going to a location ends by writing the params into it.
-/
import AdminConsole.Search.Edit

namespace AdminConsole.Search

open Query

/-- A location and the params of one list, which need not have been read from it. -/
structure Toolbar where
  scope : Scope
  location : String
  params : Params

/-- What can be done with a toolbar. -/
inductive Action where
  | edit (e : Edit)
  | merge (params : Params)
  | replace (params : Params)
  | remove (params : Params)
  | goTo (search : String)
  | reread

namespace Toolbar

def ofLocation (scope : Scope) (location : String) : Toolbar :=
  ⟨scope, location, parse scope location⟩

def edited (t : Toolbar) : Action → Params
  | .edit e => e.apply t.scope t.params
  | .merge params => Query.merge t.params params
  | .replace params => Query.replace t.params params
  | .remove params => Query.remove t.scope t.params params
  | .goTo search => parse t.scope search
  | .reread => parse t.scope t.location

def step (t : Toolbar) (a : Action) : Toolbar :=
  let params := t.edited a
  match a with
  | .goTo search => { t with location := search, params }
  | _ => { t with location := update t.scope t.location params, params }

def after (t : Toolbar) (actions : List Action) : Toolbar := actions.foldl step t

end Toolbar

end AdminConsole.Search
