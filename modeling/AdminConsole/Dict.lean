/-
# `Dict` — tables keyed by text and kept in the order of their keys

Texts are ordered by code point, which is also the byte order of their UTF-8
forms.  The functions on plain lists of entries come first; a `Dict` is such a
list together with the fact that its keys ascend, so a table has one form only.
-/

namespace AdminConsole

/-! ## Lists of entries -/

namespace Entries

variable {α β : Type}

/-- The value of the first entry with the key. -/
def get? (k : String) : List (String × α) → Option α
  | [] => none
  | (k', a) :: r => if k = k' then some a else get? k r

/-- Put a value in its place, in lieu of the one under the same key. -/
def insert (k : String) (a : α) : List (String × α) → List (String × α)
  | [] => [(k, a)]
  | (k', b) :: r =>
    if k < k' then (k, a) :: (k', b) :: r
    else if k = k' then (k, a) :: r
    else (k', b) :: insert k a r

/-- Sort entries by key; of two under one key the later counts. -/
def sort (es : List (String × α)) : List (String × α) :=
  es.foldl (fun acc e => insert e.1 e.2 acc) []

/-- The keys ascend. -/
def Ascending (es : List (String × α)) : Prop := es.Pairwise fun a b => a.1 < b.1

theorem ascending_nil : Ascending ([] : List (String × α)) := List.Pairwise.nil

theorem mem_insert {k : String} {a : α} {e : String × α} {es : List (String × α)}
    (h : e ∈ insert k a es) : e = (k, a) ∨ e ∈ es := by
  induction es with
  | nil => simpa [insert] using h
  | cons hd tl ih =>
    obtain ⟨k', b⟩ := hd
    rw [insert] at h
    split at h
    · simpa using h
    · split at h
      · rcases List.mem_cons.1 h with h | h
        · exact .inl h
        · exact .inr (List.mem_cons_of_mem _ h)
      · rcases List.mem_cons.1 h with h | h
        · exact .inr (h ▸ List.mem_cons_self)
        · exact (ih h).imp_right (List.mem_cons_of_mem _)

theorem ascending_insert (k : String) (a : α) {es : List (String × α)} (h : Ascending es) :
    Ascending (insert k a es) := by
  induction es with
  | nil => simp [insert, Ascending]
  | cons hd tl ih =>
    obtain ⟨k', b⟩ := hd
    have hk := List.pairwise_cons.1 h
    rw [insert]
    split
    next hlt =>
      refine List.pairwise_cons.2 ⟨fun e he => ?_, h⟩
      rcases List.mem_cons.1 he with rfl | he
      · exact hlt
      · exact String.lt_trans hlt (hk.1 e he)
    next hnlt =>
      split
      next heq => exact heq ▸ List.pairwise_cons.2 hk
      next hne =>
        have hlt : k' < k := by
          rcases String.le_total k k' with hle | hle
          · exact absurd (String.le_antisymm hle (String.not_lt.1 hnlt)) hne
          · exact Std.lt_of_le_of_ne hle (Ne.symm hne)
        refine List.pairwise_cons.2 ⟨fun e he => ?_, ih hk.2⟩
        rcases mem_insert he with rfl | he
        · exact hlt
        · exact hk.1 e he

theorem ascending_sort (es : List (String × α)) : Ascending (sort es) := by
  suffices ∀ acc : List (String × α), Ascending acc →
      Ascending (es.foldl (fun acc e => insert e.1 e.2 acc) acc) from this [] ascending_nil
  induction es with
  | nil => exact fun _ h => h
  | cons e r ih => exact fun acc h => ih _ (ascending_insert e.1 e.2 h)

end Entries

/-! ## Tables -/

/-- A table from texts to values, in the order of the keys. -/
structure Dict (α : Type) where
  entries : List (String × α)
  ascending : Entries.Ascending entries
  deriving DecidableEq

namespace Dict

variable {α β : Type}

def empty : Dict α := ⟨[], Entries.ascending_nil⟩

instance : Inhabited (Dict α) := ⟨empty⟩

def toList (d : Dict α) : List (String × α) := d.entries

def keys (d : Dict α) : List String := d.entries.map (·.1)

def get? (d : Dict α) (k : String) : Option α := Entries.get? k d.entries

def contains (d : Dict α) (k : String) : Bool := (d.get? k).isSome

def insert (d : Dict α) (k : String) (a : α) : Dict α :=
  ⟨Entries.insert k a d.entries, Entries.ascending_insert k a d.ascending⟩

def filter (d : Dict α) (p : String → α → Bool) : Dict α :=
  ⟨d.entries.filter fun e => p e.1 e.2, d.ascending.filter _⟩

def erase (d : Dict α) (k : String) : Dict α := d.filter fun k' _ => k' != k

/-- The table of a list of entries; of two under one key the later counts. -/
def ofList (es : List (String × α)) : Dict α := ⟨Entries.sort es, Entries.ascending_sort es⟩

/-- Lay the entries of `top` over those of `base`. -/
def overlay (base top : Dict α) : Dict α :=
  top.entries.foldl (fun d e => d.insert e.1 e.2) base

end Dict

end AdminConsole
