import Mathlib.Data.Finset.Max
import Mathlib.Data.Finset.Sort
import Roleplay.Proofs.Entries
import Roleplay.Proofs.Text.Order
import Roleplay.PromptLog

/-!
# The greatest ids

The ids that stay are the greatest ones: those above which fewer than the limit lie. What counts for
a choice made over and over is that the greatest of a set together with others are the greatest of
the whole set with them: whoever was left out once has the limit above it among those that were
kept, so it would be left out again.

## Main definitions

* `greatest n ids`: the `n` greatest of some ids

## Main results

* `greatest_greatest_union`, `greatest_insert_of_subset`: nothing that was left out is missed later
* `mem_drop_iff`: the end of a rising list holds its greatest elements
* `PromptLog.mem_kept_iff`: the ids that stay are the greatest
-/

namespace Roleplay

section Greatest

variable {α : Type*} [LinearOrder α] {n : ℕ} {ids others : Finset α} {i : α}

/-- **The greatest `n` elements** of a set: those with fewer than `n` above them. -/
def greatest (n : ℕ) (ids : Finset α) : Finset α :=
  ids.filter fun i => (ids.filter (i < ·)).card < n

theorem mem_greatest : i ∈ greatest n ids ↔ i ∈ ids ∧ (ids.filter (i < ·)).card < n :=
  Finset.mem_filter

theorem greatest_subset (n : ℕ) (ids : Finset α) : greatest n ids ⊆ ids :=
  Finset.filter_subset _ _

/-- **The greatest of more** are the greatest of fewer as well, as far as they are among these. -/
theorem mem_greatest_of_subset (h : i ∈ greatest n others) (hsub : ids ⊆ others) (hi : i ∈ ids) :
    i ∈ greatest n ids :=
  mem_greatest.mpr ⟨hi, (Finset.card_le_card (Finset.filter_subset_filter _ hsub)).trans_lt
    (mem_greatest.mp h).2⟩

/-- **An element that is left out** has as many of the greatest above it as there may be. -/
theorem le_card_of_notMem_greatest (hi : i ∈ ids) (hout : i ∉ greatest n ids) :
    n ≤ ((greatest n ids).filter (i < ·)).card := by
  -- above the last element that is left out, all are among the greatest
  obtain ⟨j, hj, hmax⟩ := (ids.filter fun j => j ∉ greatest n ids).exists_max_image id
    ⟨i, Finset.mem_filter.mpr ⟨hi, hout⟩⟩
  obtain ⟨hjids, hjout⟩ := Finset.mem_filter.mp hj
  have hij : i ≤ j := hmax i (Finset.mem_filter.mpr ⟨hi, hout⟩)
  have hcount : n ≤ (ids.filter (j < ·)).card := by
    by_contra hlt
    exact hjout (mem_greatest.mpr ⟨hjids, not_le.mp hlt⟩)
  refine hcount.trans (Finset.card_le_card fun k hk => ?_)
  obtain ⟨hkids, hjk⟩ := Finset.mem_filter.mp hk
  refine Finset.mem_filter.mpr ⟨?_, hij.trans_lt hjk⟩
  by_contra hkout
  exact absurd hjk (not_lt.mpr (hmax k (Finset.mem_filter.mpr ⟨hkids, hkout⟩)))

variable [DecidableEq α]

/-- **Choosing early misses nothing**: the greatest of a set together with others are the greatest
of all of them. -/
theorem greatest_greatest_union (n : ℕ) (ids others : Finset α) :
    greatest n (greatest n ids ∪ others) = greatest n (ids ∪ others) := by
  have hsub : greatest n ids ∪ others ⊆ ids ∪ others :=
    Finset.union_subset_union_left (greatest_subset n ids)
  ext i
  constructor
  · intro hi
    obtain ⟨hmem, hcount⟩ := mem_greatest.mp hi
    refine mem_greatest.mpr ⟨hsub hmem, ?_⟩
    by_contra hmany
    -- something above `i` is missing, so enough of the greatest are above it
    obtain ⟨j, hj, hjout⟩ : ∃ j ∈ (ids ∪ others).filter (i < ·),
        j ∉ (greatest n ids ∪ others).filter (i < ·) := by
      by_contra hall
      push Not at hall
      exact hmany ((Finset.card_le_card hall).trans_lt hcount)
    obtain ⟨hjmem, hij⟩ := Finset.mem_filter.mp hj
    have hjnot : j ∉ greatest n ids ∪ others := fun h => hjout (Finset.mem_filter.mpr ⟨h, hij⟩)
    obtain ⟨hjgreatest, hjothers⟩ := not_or.mp (mt Finset.mem_union.mpr hjnot)
    have hjids := (Finset.mem_union.mp hjmem).resolve_right hjothers
    refine absurd hcount (not_lt.mpr ((le_card_of_notMem_greatest hjids hjgreatest).trans
      (Finset.card_le_card fun k hk => ?_)))
    obtain ⟨hk, hjk⟩ := Finset.mem_filter.mp hk
    exact Finset.mem_filter.mpr ⟨Finset.mem_union_left _ hk, hij.trans hjk⟩
  · intro hi
    refine mem_greatest_of_subset hi hsub ?_
    rcases Finset.mem_union.mp (greatest_subset _ _ hi) with hids | hothers
    · exact Finset.mem_union_left _
        (mem_greatest_of_subset hi Finset.subset_union_left hids)
    · exact Finset.mem_union_right _ hothers

/-- So the next element may be put to any part that has the greatest. -/
theorem greatest_insert_of_subset {part : Finset α} (hgreatest : greatest n ids ⊆ part)
    (hpart : part ⊆ ids) (i : α) : greatest n (insert i part) = greatest n (insert i ids) := by
  have hleft : greatest n ids ∪ insert i part = insert i part :=
    Finset.union_eq_right.mpr (hgreatest.trans (Finset.subset_insert i part))
  have hright : ids ∪ insert i part = insert i ids := by
    rw [Finset.union_insert, Finset.union_eq_left.mpr hpart]
  rw [← hleft, greatest_greatest_union, hright]

/-- **The end of a rising list** holds its greatest elements. -/
theorem mem_drop_iff {l : List α} (hl : l.Pairwise (· < ·)) :
    i ∈ l.drop (l.length - n) ↔ i ∈ greatest n l.toFinset := by
  induction l with
  | nil => simp [greatest]
  | cons a l ih =>
    obtain ⟨ha, hl⟩ := List.pairwise_cons.mp hl
    rw [List.toFinset_cons]
    -- the head is left out unless there are no more than `n` elements
    by_cases hn : n ≤ l.length
    · rw [List.length_cons, Nat.succ_sub hn, List.drop_succ_cons, ih hl]
      constructor
      · intro hi
        have hil : i ∈ l := List.mem_toFinset.mp (greatest_subset _ _ hi)
        refine mem_greatest.mpr ⟨Finset.mem_insert_of_mem (greatest_subset _ _ hi), ?_⟩
        rw [Finset.filter_insert, if_neg (ha i hil).asymm]
        exact (mem_greatest.mp hi).2
      · intro hi
        refine mem_greatest_of_subset hi (Finset.subset_insert _ _) ?_
        refine Finset.mem_of_mem_insert_of_ne (greatest_subset _ _ hi) fun hia => ?_
        -- the whole list is above its head
        have hall : l.toFinset ⊆ (insert a l.toFinset).filter (i < ·) := fun j hj =>
          Finset.mem_filter.mpr
            ⟨Finset.mem_insert_of_mem hj, hia ▸ ha j (List.mem_toFinset.mp hj)⟩
        have hcount := (Finset.card_le_card hall).trans_lt (mem_greatest.mp hi).2
        rw [List.toFinset_card_of_nodup (hl.imp fun h => h.ne)] at hcount
        omega
    · rw [List.length_cons, Nat.sub_eq_zero_of_le (by omega), List.drop_zero,
        ← List.mem_toFinset, List.toFinset_cons, mem_greatest]
      refine (and_iff_left_of_imp fun hi => ?_).symm
      -- there are no more than `n` elements, and one is not above itself
      have hlt : ((insert a l.toFinset).filter (i < ·)).card < (insert a l.toFinset).card :=
        Finset.card_lt_card (Finset.filter_ssubset.mpr ⟨i, hi, lt_irrefl i⟩)
      have hcard := (Finset.card_insert_le a l.toFinset).trans
        (Nat.succ_le_succ l.toFinset_card_le)
      omega

end Greatest

namespace PromptLog

/-- The ids of some names. -/
def ids (names : List Text) : Finset Text :=
  (names.map idOfFile).toFinset

theorem mem_ids_iff {names : List Text} {i : Text} :
    i ∈ ids names ↔ ∃ n ∈ names, idOfFile n = i := by
  simp [ids]

theorem pairwise_sortedIds (names : List Text) : (sortedIds names).Pairwise (· < ·) := by
  have hnodup : (sortedIds names).Nodup :=
    (List.mergeSort_perm _ _).nodup_iff.mpr (nodup_eraseDups _)
  exact (Text.pairwise_mergeSort _).imp₂ (fun _ _ h hne => lt_of_le_of_ne h hne) hnodup

/-- **The ids that stay** are the greatest. -/
theorem mem_kept_iff {l : PromptLog} {names : List Text} {i : Text} :
    i ∈ l.kept names ↔ i ∈ greatest l.limit (ids names) := by
  have hids : (sortedIds names).toFinset = ids names := by
    ext j
    simp [sortedIds, ids]
  rw [kept, mem_drop_iff (pairwise_sortedIds names), hids]

end PromptLog

end Roleplay
