import Mathlib.Data.List.Induction
import Mathlib.Data.List.Nodup
import Roleplay.Entries

/-!
# Laws of entries

A key stands once among entries that were put one after another, with the value that was put last.
Putting a value under a key changes no other key; entries without a key, or chosen by their values,
hold what they held before under the keys that are left. Things that are kept in the order in which
they came first stand in the order of their first occurrences.

## Main definitions

* `Entries.without`: the entries without some keys

## Main results

* `eraseDups_concat`, `nodup_eraseDups`: first occurrences
* `Entries.get?_put_self`, `Entries.get?_put_of_ne`: what is found after a value is put
* `Entries.nodup_keys_ofList`, `Entries.ofList_eq_self`: entries of a list have every key once
* `Entries.get?_merge_eq_last`, `Entries.get?_merge`: what is found among entries put over others
* `Entries.get?_filter`, `Entries.get?_filter_of_nodup`: what is found among fewer entries
-/

namespace Roleplay

/-! ## First occurrences -/

section FirstOccurrences

variable {α : Type} [BEq α] [LawfulBEq α]

/-- A last element comes to the first occurrences when it is not among them. -/
theorem eraseDups_concat (as : List α) (a : α) :
    (as ++ [a]).eraseDups = if a ∈ as.eraseDups then as.eraseDups else as.eraseDups ++ [a] := by
  rw [List.eraseDups_append, List.removeAll]
  split
  · next ha =>
    have hold : a ∈ as := List.mem_eraseDups.mp ha
    rw [List.filter_cons_of_neg (by simpa using hold), List.filter_nil, List.eraseDups_nil,
      List.append_nil]
  · next ha =>
    have hnew : a ∉ as := fun hold => ha (List.mem_eraseDups.mpr hold)
    rw [List.filter_cons_of_pos (by simpa using hnew), List.filter_nil]
    rfl

theorem nodup_eraseDups (as : List α) : as.eraseDups.Nodup := by
  induction as using List.reverseRecOn with
  | nil => exact List.nodup_nil
  | append_singleton as a ih =>
    rw [eraseDups_concat]
    split
    · exact ih
    · next ha => exact ih.append (List.nodup_singleton a) (by simpa using ha)

end FirstOccurrences

namespace Entries

variable {α : Type} {es : Entries α}

/-! ## Finding -/

theorem get?_cons (k k' : Text) (v : α) (es : Entries α) :
    Entries.get? ((k, v) :: es) k' = if k' = k then some v else es.get? k' := by
  rw [get?, List.lookup_cons]
  by_cases h : k' = k
  · rw [if_pos h, h, beq_self_eq_true]
  · rw [if_neg h, beq_false_of_ne h]
    rfl

theorem get?_eq_none_iff {k : Text} : es.get? k = none ↔ k ∉ es.map (·.1) := by
  induction es with
  | nil => simp [get?]
  | cons e es ih =>
    obtain ⟨k', v'⟩ := e
    rw [get?_cons, List.map_cons, List.mem_cons, not_or, ← ih]
    by_cases h : k = k'
    · simp [h]
    · simp [h]

theorem get?_eq_some_of_mem (h : (es.map (·.1)).Nodup)
    {k : Text} {v : α} (hmem : (k, v) ∈ es) : es.get? k = some v := by
  induction es with
  | nil => cases hmem
  | cons e es ih =>
    obtain ⟨k', v'⟩ := e
    obtain ⟨hk, hes⟩ := List.nodup_cons.mp h
    rw [get?_cons]
    rcases List.mem_cons.mp hmem with heq | hrest
    · cases heq
      rw [if_pos rfl]
    · have hne : k ≠ k' := by
        rintro rfl
        exact hk (List.mem_map.mpr ⟨(k, v), hrest, rfl⟩)
      rw [if_neg hne, ih hes hrest]

theorem mem_of_get?_eq_some {k : Text} {v : α} (h : es.get? k = some v) : (k, v) ∈ es := by
  obtain ⟨es₁, es₂, hes, -⟩ := List.lookup_eq_some_iff.mp h
  rw [hes]
  exact List.mem_append_right es₁ List.mem_cons_self

theorem get?_append (es fs : Entries α) (k : Text) :
    Entries.get? (es ++ fs) k = (es.get? k).or (fs.get? k) := by
  induction es with
  | nil => rfl
  | cons e es ih =>
    obtain ⟨k', v⟩ := e
    rw [List.cons_append, get?_cons, get?_cons, ih]
    split <;> rfl

theorem get?_map {β : Type} (f : α → β) (es : Entries α) (k : Text) :
    Entries.get? (es.map fun e => (e.1, f e.2)) k = (es.get? k).map f := by
  induction es with
  | nil => rfl
  | cons e es ih =>
    obtain ⟨k', v⟩ := e
    rw [List.map_cons, get?_cons, get?_cons, ih]
    split <;> rfl

/-! ## Putting -/

theorem get?_put_self (es : Entries α) (k : Text) (v : α) : (es.put k v).get? k = some v := by
  induction es with
  | nil => rw [put, get?_cons, if_pos rfl]
  | cons e es ih =>
    obtain ⟨k', v'⟩ := e
    rw [put]
    by_cases h : k' = k
    · rw [if_pos h, get?_cons, if_pos rfl]
    · rw [if_neg h, get?_cons, if_neg (Ne.symm h), ih]

theorem get?_put_of_ne (es : Entries α) {k k' : Text} (h : k' ≠ k) (v : α) :
    (es.put k v).get? k' = es.get? k' := by
  induction es with
  | nil => rw [put, get?_cons, if_neg h]
  | cons e es ih =>
    obtain ⟨k'', v''⟩ := e
    rw [put]
    by_cases hk : k'' = k
    · rw [if_pos hk, get?_cons, get?_cons, if_neg h, if_neg (hk ▸ h)]
    · rw [if_neg hk, get?_cons, get?_cons, ih]

/-- A value that was put is put again in its place. -/
theorem put_put_self (es : Entries α) (k : Text) (v : α) : (es.put k v).put k v = es.put k v := by
  induction es with
  | nil => rw [put, put, if_pos rfl]
  | cons e es ih =>
    obtain ⟨k', v'⟩ := e
    rw [put]
    by_cases h : k' = k
    · rw [if_pos h, put, if_pos rfl]
    · rw [if_neg h, put, if_neg h, ih]

theorem put_of_notMem {k : Text} (h : k ∉ es.map (·.1)) (v : α) : es.put k v = es ++ [(k, v)] := by
  induction es with
  | nil => rfl
  | cons e es ih =>
    obtain ⟨k', v'⟩ := e
    rw [List.map_cons, List.mem_cons, not_or] at h
    rw [put, if_neg (Ne.symm h.1), ih h.2]
    rfl

theorem map_fst_put_of_mem {k : Text} (h : k ∈ es.map (·.1)) (v : α) :
    (es.put k v).map (·.1) = es.map (·.1) := by
  induction es with
  | nil => cases h
  | cons e es ih =>
    obtain ⟨k', v'⟩ := e
    rw [put]
    by_cases hk : k' = k
    · rw [if_pos hk, ← hk]
      rfl
    · rw [if_neg hk, List.map_cons, List.map_cons]
      rw [List.map_cons, List.mem_cons] at h
      rw [ih (h.resolve_left (Ne.symm hk))]

/-- **Every key stands once** after a value is put. -/
theorem nodup_keys_put (h : (es.map (·.1)).Nodup) (k : Text) (v : α) :
    ((es.put k v).map (·.1)).Nodup := by
  by_cases hk : k ∈ es.map (·.1)
  · rw [map_fst_put_of_mem hk]
    exact h
  · rw [put_of_notMem hk, List.map_append]
    exact List.nodup_append.mpr ⟨h, List.nodup_singleton k, by
      intro a ha b hb hab
      rw [List.map_singleton, List.mem_singleton] at hb
      rw [hab, hb] at ha
      exact hk ha⟩

theorem mem_put {k : Text} {v : α} {p : Text × α} (h : p ∈ es.put k v) : p ∈ es ∨ p = (k, v) := by
  induction es with
  | nil => exact Or.inr (List.mem_singleton.mp h)
  | cons e es ih =>
    obtain ⟨k', v'⟩ := e
    rw [put] at h
    split at h
    · rcases List.mem_cons.mp h with heq | hmem
      · exact Or.inr heq
      · exact Or.inl (List.mem_cons_of_mem _ hmem)
    · rcases List.mem_cons.mp h with heq | hmem
      · exact Or.inl (heq ▸ List.mem_cons_self)
      · exact (ih hmem).imp_left (List.mem_cons_of_mem _)

/-! ## The entries of a list -/

theorem nodup_keys_merge (h : (es.map (·.1)).Nodup) (fs : Entries α) :
    ((es.merge fs).map (·.1)).Nodup := by
  induction fs generalizing es with
  | nil => exact h
  | cons f fs ih => exact ih (nodup_keys_put h f.1 f.2)

theorem nodup_keys_ofList (fs : List (Text × α)) : ((ofList fs).map (·.1)).Nodup := by
  apply nodup_keys_merge
  exact List.nodup_nil

theorem mem_merge {fs : Entries α} {p : Text × α} (h : p ∈ es.merge fs) : p ∈ es ∨ p ∈ fs := by
  induction fs generalizing es with
  | nil => exact Or.inl h
  | cons f fs ih =>
    rcases ih h with hput | hmem
    · rcases mem_put hput with hmem | rfl
      · exact Or.inl hmem
      · exact Or.inr List.mem_cons_self
    · exact Or.inr (List.mem_cons_of_mem f hmem)

theorem mem_of_mem_ofList {fs : List (Text × α)} {p : Text × α} (h : p ∈ ofList fs) : p ∈ fs :=
  (mem_merge h).resolve_left List.not_mem_nil

/-- **What is found among entries that were put over others**: the last of them, otherwise one of
the others. -/
theorem get?_merge_eq_last (es fs : Entries α) (k : Text) :
    (es.merge fs).get? k = (Entries.get? fs.reverse k).or (es.get? k) := by
  induction fs generalizing es with
  | nil => rfl
  | cons f fs ih =>
    obtain ⟨k', v⟩ := f
    show ((es.put k' v).merge fs).get? k = _
    rw [ih, List.reverse_cons, get?_append, Option.or_assoc]
    congr 1
    by_cases hk : k = k'
    · rw [hk, get?_put_self, get?_cons, if_pos rfl]
      rfl
    · rw [get?_put_of_ne es hk, get?_cons, if_neg hk]
      rfl

/-- **What is found among entries that were put over others**: one of them, otherwise one of the
others. -/
theorem get?_merge (es : Entries α) {fs : Entries α} (h : (fs.map (·.1)).Nodup) (k : Text) :
    (es.merge fs).get? k = (fs.get? k).or (es.get? k) := by
  rw [get?_merge_eq_last]
  congr 1
  -- where every key stands once, the last entry of a key is the first one
  cases hk : fs.get? k with
  | none =>
    rw [get?_eq_none_iff] at hk ⊢
    simpa using hk
  | some v =>
    apply get?_eq_some_of_mem
    · rw [List.map_reverse]
      exact List.nodup_reverse.mpr h
    · exact List.mem_reverse.mpr (mem_of_get?_eq_some hk)

/-- **A list that has every key once** is its own entries. -/
theorem ofList_eq_self {fs : List (Text × α)} (h : (fs.map (·.1)).Nodup) : ofList fs = fs := by
  have hmerge : ∀ es : Entries α, ((es ++ fs).map (·.1)).Nodup → es.merge fs = es ++ fs := by
    clear h
    induction fs with
    | nil =>
      intro es _
      exact (List.append_nil es).symm
    | cons f fs ih =>
      intro es hnodup
      have hf : f.1 ∉ es.map (·.1) := by
        rw [List.map_append] at hnodup
        intro hmem
        exact (List.nodup_append.mp hnodup).2.2 f.1 hmem f.1 List.mem_cons_self rfl
      show (es.put f.1 f.2).merge fs = _
      rw [put_of_notMem hf, ih, List.append_assoc]
      · rfl
      · rw [List.append_assoc]
        exact hnodup
  exact hmerge [] h

/-! ## Fewer entries -/

theorem get?_filter {p : Text × α → Bool} {k : Text} {v : α} (h : es.get? k = some v)
    (hp : p (k, v) = true) : Entries.get? (es.filter p) k = some v := by
  induction es with
  | nil => cases h
  | cons e es ih =>
    obtain ⟨k', v'⟩ := e
    rw [get?_cons] at h
    split at h
    · next hk =>
      cases h
      rw [hk] at hp
      rw [List.filter_cons_of_pos hp, get?_cons, if_pos hk]
    · next hk =>
      by_cases hp' : p (k', v') = true
      · rw [List.filter_cons_of_pos hp', get?_cons, if_neg hk]
        exact ih h
      · rw [List.filter_cons_of_neg hp']
        exact ih h

/-- **What is found among fewer entries**, when every key stands once: what was found before, if it
is chosen. -/
theorem get?_filter_of_nodup (h : (es.map (·.1)).Nodup) (p : Text × α → Bool) (k : Text) :
    Entries.get? (es.filter p) k = (es.get? k).filter fun v => p (k, v) := by
  cases hv : es.get? k with
  | none =>
    rw [get?_eq_none_iff] at hv
    exact get?_eq_none_iff.mpr fun hk => hv ((List.filter_sublist.map Prod.fst).subset hk)
  | some v =>
    by_cases hp : p (k, v) = true
    · rw [get?_filter hv hp, Option.filter_some, if_pos hp]
    · rw [Option.filter_some, if_neg hp, get?_eq_none_iff]
      intro hk
      obtain ⟨⟨_, w⟩, he, rfl⟩ := List.mem_map.mp hk
      obtain ⟨hmem, hw⟩ := List.mem_filter.mp he
      -- the key has no other value
      rw [get?_eq_some_of_mem h hmem] at hv
      cases hv
      exact hp hw

theorem remove_comm (es : Entries α) (k k' : Text) :
    (es.remove k).remove k' = (es.remove k').remove k := by
  rw [remove, remove, remove, remove, List.filter_comm]

theorem remove_of_notMem {k : Text} (h : k ∉ es.map (·.1)) : es.remove k = es := by
  rw [remove, List.filter_eq_self]
  intro e he
  rw [decide_eq_true_eq]
  rintro rfl
  exact h (List.mem_map_of_mem he)

theorem mem_keys_remove {k k' : Text} (h : k ≠ k') :
    k ∈ (es.remove k').map (·.1) ↔ k ∈ es.map (·.1) := by
  simp only [remove, List.mem_map, List.mem_filter, decide_eq_true_eq]
  constructor
  · rintro ⟨e, ⟨he, -⟩, rfl⟩
    exact ⟨e, he, rfl⟩
  · rintro ⟨e, he, rfl⟩
    exact ⟨e, ⟨he, h⟩, rfl⟩

theorem notMem_keys_remove (es : Entries α) (k : Text) : k ∉ (es.remove k).map (·.1) := by
  intro hk
  obtain ⟨e, he, hkey⟩ := List.mem_map.mp hk
  exact of_decide_eq_true (List.mem_filter.mp he).2 hkey

/-- What was put under a key is gone with the key. -/
theorem remove_put (es : Entries α) (k : Text) (v : α) : (es.put k v).remove k = es.remove k := by
  induction es with
  | nil => simp [put, remove]
  | cons e es ih =>
    obtain ⟨k', v'⟩ := e
    rw [put]
    by_cases h : k' = k
    · rw [if_pos h]
      simp [remove, h]
    · rw [if_neg h]
      simp only [remove, List.filter_cons] at ih ⊢
      rw [ih]

/-- **The entries without some keys.** -/
def without (es : Entries α) (ks : List Text) : Entries α :=
  es.filter (·.1 ∉ ks)

theorem without_nil (es : Entries α) : es.without [] = es := by
  rw [without, List.filter_eq_self]
  intro e _
  simp

theorem without_cons (es : Entries α) (k : Text) (ks : List Text) :
    es.without (k :: ks) = (es.remove k).without ks := by
  rw [without, without, remove, List.filter_filter]
  apply List.filter_congr
  intro e _
  simp [Bool.and_comm]

end Entries

end Roleplay
