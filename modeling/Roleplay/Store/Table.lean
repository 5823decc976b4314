/-!
# Tables

Rows in the order in which they came, each with an id. Ids count up from one and none is given
twice, also when rows are removed.

## Main definitions

* `Table α`: rows and the last id
* `Table.insert`: another row, made from its id
* `Table.update`, `Table.remove`, `Table.find?`, `Table.filter`

## Main results

* `Table.rows_insert`: a new row stands behind all others
-/

namespace Roleplay

/-- **A table**: the last id that was given, and the rows. -/
structure Table (α : Type) where
  lastId : Int := 0
  rows : List α := []
deriving Repr, Inhabited

namespace Table

variable {α : Type}

/-- **Another row**, made from its id. -/
def insert (t : Table α) (make : Int → α) : Table α × α :=
  let row := make (t.lastId + 1)
  (⟨t.lastId + 1, t.rows ++ [row]⟩, row)

/-- A new row stands behind all others. -/
@[simp] theorem rows_insert (t : Table α) (make : Int → α) :
    (t.insert make).1.rows = t.rows ++ [make (t.lastId + 1)] := rfl

/-- The rows that satisfy `p` changed by `f`. -/
def update (t : Table α) (p : α → Bool) (f : α → α) : Table α :=
  { t with rows := t.rows.map fun r => if p r then f r else r }

/-- The table without the rows that satisfy `p`. -/
def remove (t : Table α) (p : α → Bool) : Table α :=
  { t with rows := t.rows.filter (!p ·) }

/-- The first row that satisfies `p`. -/
def find? (t : Table α) (p : α → Bool) : Option α :=
  t.rows.find? p

/-- The rows that satisfy `p`. -/
def filter (t : Table α) (p : α → Bool) : List α :=
  t.rows.filter p

end Table

end Roleplay
