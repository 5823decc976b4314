import Mathlib.Data.List.Infix
import Roleplay.Text.Basic

/-!
# Occurrences in a text

A text is cut at the first occurrence of a separator. What follows is the cut seen from outside: it
fails exactly where the separator does not occur, what stands before it holds no occurrence, and
a separator that neither occurs before a place nor begins before it is found at that place.

## Main results

* `Text.cut?_eq_none_iff`, `Text.contains_iff_isInfix`: when there is an occurrence
* `Text.not_isInfix_of_cut?_eq_some`, `Text.exists_of_cut?_eq_some`: none stands before the first
  one, and none begins before it
* `Text.cut?_append`, `Text.cut?_append_cons`: where the first one is
-/

namespace Roleplay.Text

theorem dropPrefix?_eq_none_iff {t p : Text} : t.dropPrefix? p = none ↔ ¬ p <+: t := by
  rw [Option.eq_none_iff_forall_ne_some]
  constructor
  · rintro h ⟨r, rfl⟩
    exact h r (dropPrefix?_append p r)
  · rintro h r hr
    exact h ⟨r, (eq_of_dropPrefix?_eq_some hr).symm⟩

/-- A cut fails exactly where the separator does not occur. -/
theorem cut?_eq_none_iff {t sep : Text} : t.cut? sep = none ↔ ¬ sep <:+: t := by
  induction t with
  | nil =>
    rw [cut?, List.infix_nil]
    by_cases hs : sep = []
    · simp [hs]
    · simp [hs]
  | cons c t ih =>
    rw [cut?, List.infix_cons_iff, not_or, ← ih, ← dropPrefix?_eq_none_iff]
    cases h : dropPrefix? (c :: t) sep with
    | none => simp
    | some r => simp

theorem contains_iff_isInfix {t part : Text} : t.contains part = true ↔ part <:+: t := by
  rw [contains, Option.isSome_iff_ne_none, ne_eq, cut?_eq_none_iff, not_not]

/-- No occurrence stands before the first one. -/
theorem not_isInfix_of_cut?_eq_some {t sep a b : Text} (hne : sep ≠ [])
    (h : t.cut? sep = some (a, b)) : ¬ sep <:+: a := by
  induction t generalizing a with
  | nil =>
    rw [cut?, if_neg hne] at h
    cases h
  | cons c t ih =>
    rw [cut?] at h
    cases hp : dropPrefix? (c :: t) sep with
    | some r =>
      -- at the head of the text, so nothing stands before
      simp only [hp, Option.some.injEq, Prod.mk.injEq] at h
      rw [← h.1, List.infix_nil]
      exact hne
    | none =>
      -- further on, and not at the head either
      simp only [hp, Option.map_eq_some_iff, Prod.exists, Prod.mk.injEq] at h
      obtain ⟨a', b', hc, rfl, rfl⟩ := h
      rw [List.infix_cons_iff, not_or]
      refine ⟨fun hpre => ?_, ih hc⟩
      refine dropPrefix?_eq_none_iff.mp hp (hpre.trans ?_)
      rw [eq_of_cut?_eq_some hc, List.append_assoc]
      exact ⟨_, rfl⟩

/-- **No occurrence begins before the first one.** -/
theorem isPrefix_of_cut?_eq_some {t sep a b x y : Text} (h : t.cut? sep = some (a, b))
    (ht : t = x ++ (sep ++ y)) : a <+: x := by
  subst ht
  induction x generalizing a with
  | nil =>
    cases sep with
    | nil => cases y <;> cases h <;> exact List.nil_prefix
    | cons c sep =>
      rw [List.nil_append, List.cons_append, cut?, ← List.cons_append, dropPrefix?_append] at h
      cases h
      exact List.nil_prefix
  | cons c x ih =>
    rw [List.cons_append, cut?] at h
    split at h
    · cases h
      exact List.nil_prefix
    · obtain ⟨⟨a', b'⟩, hcut, heq⟩ := Option.map_eq_some_iff.mp h
      cases heq
      exact List.cons_prefix_cons.mpr ⟨rfl, ih hcut⟩

/-- An occurrence stands at the first one or behind it. -/
theorem exists_of_cut?_eq_some {t sep a b x y : Text} (h : t.cut? sep = some (a, b))
    (ht : t = x ++ (sep ++ y)) : ∃ c, x = a ++ c ∧ sep ++ b = c ++ (sep ++ y) := by
  obtain ⟨c, rfl⟩ := isPrefix_of_cut?_eq_some h ht
  refine ⟨c, rfl, ?_⟩
  rw [eq_of_cut?_eq_some h, List.append_assoc, List.append_assoc, List.append_cancel_left_eq] at ht
  exact ht

/-- What follows a later occurrence ends what follows the first one. -/
theorem isSuffix_of_append_eq {sep b c y : Text} (h : sep ++ b = c ++ (sep ++ y)) : y <:+ b := by
  refine List.suffix_of_suffix_length_le ⟨c ++ sep, ?_⟩ (List.suffix_append sep b) ?_
  · rw [h, List.append_assoc]
  · have hlength := congrArg List.length h
    simp only [List.length_append] at hlength
    omega

/-- **The place of the first occurrence**: a separator that does not occur in what precedes it,
its own characters but the last included, is found there. -/
theorem cut?_append {a sep : Text} (hne : sep ≠ []) (h : ¬ sep <:+: a ++ sep.dropLast) (b : Text) :
    Text.cut? (a ++ (sep ++ b)) sep = some (a, b) := by
  induction a with
  | nil =>
    obtain ⟨c, sep, rfl⟩ := List.exists_cons_of_ne_nil hne
    rw [List.nil_append, List.cons_append, cut?, ← List.cons_append, dropPrefix?_append]
  | cons c a ih =>
    -- at the head it would lie within `c :: a` and its own first characters
    have hfirst : dropPrefix? (c :: (a ++ (sep ++ b))) sep = none := by
      refine dropPrefix?_eq_none_iff.mpr fun hpre => h ?_
      have hlong : c :: a ++ sep.dropLast <+: c :: (a ++ (sep ++ b)) := by
        rw [← List.cons_append, List.prefix_append_right_inj]
        exact (List.dropLast_prefix sep).trans (List.prefix_append _ _)
      have hlen : sep.length ≤ (c :: a ++ sep.dropLast).length := by
        simp only [List.length_append, List.length_cons, List.length_dropLast]
        omega
      exact (List.prefix_of_prefix_length_le hpre hlong hlen).isInfix
    have hrest : ¬ sep <:+: a ++ sep.dropLast := fun hin => h (List.infix_cons hin)
    rw [List.cons_append, cut?, hfirst, ih hrest]
    rfl

/-- A text is cut at a character that does not stand before. -/
theorem cut?_append_cons {a : Text} {c : Char} (h : c ∉ a) (b : Text) :
    Text.cut? (a ++ c :: b) [c] = some (a, b) := by
  refine cut?_append (List.cons_ne_nil c []) (fun hin => h ?_) b
  rw [List.dropLast_singleton, List.append_nil] at hin
  exact hin.subset List.mem_cons_self

theorem notMem_of_cut?_eq_some {t a b : Text} {c : Char} (h : t.cut? [c] = some (a, b)) :
    c ∉ a := by
  intro hc
  obtain ⟨x, y, rfl⟩ := List.append_of_mem hc
  exact not_isInfix_of_cut?_eq_some (List.cons_ne_nil c []) h ⟨x, y, by simp⟩

end Roleplay.Text
