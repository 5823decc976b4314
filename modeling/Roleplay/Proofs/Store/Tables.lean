import Mathlib.Data.List.Nodup
import Roleplay.Proofs.Except
import Roleplay.Store.Basic

/-!
# Rows in their order

The ids of a table count up, so that the rows stand in the order of their ids and an id says which
row it is. A row that comes and a change that leaves the ids alone keep that.

## Main definitions

* `Table.Ordered`: the ids of the rows count up

## Main results

* `Table.Ordered.insert`, `Table.Ordered.update`: what keeps the order
* `Table.Ordered.eq_of_id`: rows of one id are the same row
* `Table.filter_update`: rows that a change does not reach
* `Table.update_eq_self`, `Table.remove_eq_self`: a change and a removal that reach none
* `Store.accept_of_open`, `Store.accept_eq_ok_iff`: what a store takes
* `Store.require_eq_ok_iff`, `Store.requireRow_eq_ok_iff`: what went well before a statement that
  did
-/

namespace Roleplay

namespace Table

variable {α : Type} {id : α → Int} {t : Table α}

/-- **The ids of the rows count up**, to at most the last id that was given. -/
structure Ordered (id : α → Int) (t : Table α) : Prop where
  increasing : t.rows.Pairwise (id · < id ·)
  bounded : ∀ r ∈ t.rows, id r ≤ t.lastId

theorem Ordered.empty : Ordered id {} where
  increasing := List.Pairwise.nil
  bounded := fun _ h => absurd h List.not_mem_nil

/-- A new row has an id behind those of all others. -/
theorem Ordered.insert (h : t.Ordered id) {make : Int → α}
    (hmake : ∀ i, id (make i) = i) : (t.insert make).1.Ordered id where
  increasing := by
    rw [rows_insert, List.pairwise_append]
    refine ⟨h.increasing, List.pairwise_singleton _ _, ?_⟩
    intro r hr row hrow
    rw [List.mem_singleton.mp hrow, hmake]
    exact Int.lt_add_one_of_le (h.bounded r hr)
  bounded := by
    intro r hr
    rw [rows_insert, List.mem_append, List.mem_singleton] at hr
    rcases hr with hr | rfl
    · exact Int.le_add_one (h.bounded r hr)
    · exact Int.le_of_eq (hmake _)

/-- A change that leaves the ids alone keeps the order. -/
theorem Ordered.update (h : t.Ordered id) {p : α → Bool} {f : α → α} (hf : ∀ r, id (f r) = id r) :
    (t.update p f).Ordered id := by
  have hid : ∀ r, id (if p r then f r else r) = id r := by
    intro r
    split
    · exact hf r
    · rfl
  constructor
  · rw [Table.update, List.pairwise_map]
    simpa only [hid] using h.increasing
  · intro r hr
    obtain ⟨q, hq, rfl⟩ := List.mem_map.mp hr
    rw [hid]
    exact h.bounded q hq

theorem Ordered.nodup (h : t.Ordered id) : t.rows.Nodup :=
  h.increasing.imp fun hlt heq => Int.ne_of_lt hlt (congrArg id heq)

/-- **An id says which row it is.** -/
theorem Ordered.eq_of_id (h : t.Ordered id) {r q : α} (hr : r ∈ t.rows) (hq : q ∈ t.rows)
    (heq : id r = id q) : r = q := by
  have hids : (t.rows.map id).Nodup :=
    List.pairwise_map.mpr (h.increasing.imp Int.ne_of_lt)
  exact List.inj_on_of_nodup_map hids hr hq heq

/-- A change that reaches no row. -/
theorem update_eq_self {p : α → Bool} (h : t.rows.any p = false) (f : α → α) :
    t.update p f = t := by
  refine congrArg (mk t.lastId) ((List.map_congr_left fun r hr => ?_).trans (List.map_id _))
  exact if_neg (List.any_eq_false.mp h r hr)

/-- A removal that reaches no row. -/
theorem remove_eq_self {p : α → Bool} (h : t.rows.any p = false) : t.remove p = t := by
  refine congrArg (mk t.lastId) (List.filter_eq_self.mpr fun r hr => ?_)
  simpa using List.any_eq_false.mp h r hr

/-- **A change of some rows** is not felt by those of which none is changed and none comes. -/
theorem filter_update {p q : α → Bool} {f : α → α} (hp : ∀ r, p r = true → q r = false)
    (hf : ∀ r, p r = true → q (f r) = false) : (t.update p f).filter q = t.filter q := by
  have hrows : ∀ rows : List α,
      (rows.map fun r => if p r then f r else r).filter q = rows.filter q := by
    intro rows
    induction rows with
    | nil => rfl
    | cons r rows ih =>
      by_cases hr : p r = true
      · rw [List.map_cons, if_pos hr, List.filter_cons_of_neg (by simp [hf r hr]),
          List.filter_cons_of_neg (by simp [hp r hr]), ih]
      · rw [List.map_cons, if_neg hr, List.filter_cons, List.filter_cons, ih]
  exact hrows t.rows

end Table

/-! ## Statements -/

namespace Store

theorem require_eq_ok_iff {α : Type} {table column : Text} {value : Option α} {a : α} :
    require table column value = .ok a ↔ value = some a := by
  cases value <;> simp [require]

theorem requireRow_eq_ok_iff {isThere : Bool} : requireRow isThere = .ok () ↔ isThere = true := by
  cases isThere <;> simp [requireRow]

/-- What an open store takes depends on the numbers alone. -/
theorem accept_of_open {s : Store} (h : s.isClosed = false) (numbers : List (Option Int)) :
    s.accept numbers =
      if numbers.all (·.all fits) then .ok () else .error (.store .numberTooLarge) := by
  have hfits : numbers.any (·.any (!fits ·)) = !numbers.all (·.all fits) := by
    rw [List.not_all_eq_any_not]
    refine congrArg numbers.any (funext fun n => ?_)
    cases n <;> rfl
  rw [accept, h, hfits]
  cases numbers.all (·.all fits) <;> rfl

/-- **An open store takes numbers that fit**, and no other statement is taken. -/
theorem accept_eq_ok_iff {s : Store} {numbers : List (Option Int)} :
    s.accept numbers = .ok () ↔ s.isClosed = false ∧ ∀ n ∈ numbers, n.all fits = true := by
  cases hclosed : s.isClosed with
  | true => simp [accept, hclosed]
  | false =>
    rw [accept_of_open hclosed, ← List.all_eq_true]
    cases numbers.all (·.all fits) <;> simp

end Store

end Roleplay
