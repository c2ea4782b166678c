/-
# `Selection` — the rows that a user has selected

Rows are told apart by a key.  A new page does not take away what was selected
on earlier ones.
-/

namespace AdminConsole

/-- Rows that are told apart by a key. -/
class Keyed (α : Type) (κ : outParam Type) where
  key : α → κ

/-- The rows in view and those selected, in the order in which they were selected. -/
structure Selection (α : Type) where
  items : List α
  selected : List α

namespace Selection

variable {α κ : Type} [Keyed α κ] [DecidableEq κ]

def empty : Selection α := ⟨[], []⟩

def ofItems (items : List α) : Selection α := ⟨items, []⟩

def setItems (s : Selection α) (items : List α) : Selection α := { s with items }

/-- Select exactly some rows. -/
def setSelected (s : Selection α) (selected : List α) : Selection α := { s with selected }

def keys (s : Selection α) : List κ := s.selected.map Keyed.key

def isSelected (s : Selection α) (a : α) : Bool :=
  s.selected.any fun b => decide (Keyed.key b = (Keyed.key a : κ))

/-- Whether there are rows in view and each of them is selected. -/
def isAllSelected (s : Selection α) : Bool := !s.items.isEmpty && s.items.all s.isSelected

/-- A list without its first row of a key. -/
def dropFirst (k : κ) : List α → List α
  | [] => []
  | a :: r => if Keyed.key a = k then r else a :: dropFirst k r

def toggle (s : Selection α) (a : α) : Selection α :=
  if s.isSelected a then { s with selected := dropFirst (Keyed.key a : κ) s.selected }
  else { s with selected := s.selected ++ [a] }

def selectAll (s : Selection α) (on : Bool) : Selection α :=
  { s with selected := if on then s.items else [] }

def clear (s : Selection α) : Selection α := { s with selected := [] }

/-- What may happen to a selection. -/
inductive Event (α : Type) where
  | setItems (items : List α)
  | setSelected (items : List α)
  | toggle (item : α)
  | selectAll (on : Bool)
  | clear

def step (s : Selection α) : Event α → Selection α
  | .setItems items => s.setItems items
  | .setSelected items => s.setSelected items
  | .toggle a => s.toggle a
  | .selectAll on => s.selectAll on
  | .clear => s.clear

def after (s : Selection α) (events : List (Event α)) : Selection α := events.foldl step s

end Selection

end AdminConsole
