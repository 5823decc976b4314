import Mathlib.Data.List.DropRight
import Roleplay.Text.Blank

/-!
# Stripped texts

Stripping takes a prefix and a suffix away. A text is stripped when nothing is taken, which its
two ends decide.

## Main definitions

* `Text.Only p t`: `t` has only characters that satisfy `p`
* `Text.Stripped t`: `t` has no blank at either end

## Main results

* `Text.stripWhere_isInfix`: what is left is a piece of the text
* `Text.stripWhere_eq_self_iff`: a text is left as it is when neither end is taken
* `Text.stripped_strip`: stripping strips
* `Text.dropWhile_eq_iff`: what is left behind the characters at the beginning
-/

namespace Roleplay.Text

variable {p : Char → Bool} {t : Text}

theorem stripEndWhere_eq_rdropWhile (p : Char → Bool) (t : Text) :
    stripEndWhere p t = t.rdropWhile p := by
  induction t with
  | nil => rfl
  | cons c t ih =>
    rw [stripEndWhere, ih]
    cases hr : t.rdropWhile p with
    | nil =>
      -- nothing stays of the tail, so `c` decides alone
      have ht : ∀ d ∈ t.reverse, p d = true := by
        simpa using List.rdropWhile_eq_nil_iff.mp hr
      by_cases hc : p c
      · rw [if_pos hc, eq_comm, List.rdropWhile_eq_nil_iff]
        simpa [hc] using ht
      · simp [List.rdropWhile, List.dropWhile_append_of_pos ht, hc]
    | cons d r =>
      -- something stays behind `c`, so it stays too
      have hne : List.dropWhile p t.reverse ≠ [] := by
        intro h
        simp [List.rdropWhile, h] at hr
      have hkeep : (c :: t).rdropWhile p = c :: t.rdropWhile p := by
        simp [List.rdropWhile, List.dropWhile_append, hne]
      rw [hkeep, hr]

theorem stripWhere_eq (p : Char → Bool) (t : Text) :
    t.stripWhere p = (t.dropWhile p).rdropWhile p :=
  stripEndWhere_eq_rdropWhile p _

/-- What is left of a text is a piece of it. -/
theorem stripWhere_isInfix (p : Char → Bool) (t : Text) : t.stripWhere p <:+: t := by
  rw [stripWhere_eq]
  exact (List.rdropWhile_prefix p _).isInfix.trans (List.dropWhile_suffix p).isInfix

/-- A text is left as it is when neither end is taken. -/
theorem stripWhere_eq_self_iff :
    t.stripWhere p = t ↔ (∀ c ∈ t.head?, p c = false) ∧ ∀ c ∈ t.getLast?, p c = false := by
  constructor
  · intro h
    have hinfix := List.rdropWhile_prefix p (t.dropWhile p)
    rw [← stripWhere_eq, h] at hinfix
    -- what is left is as long as the text, so nothing was taken in front
    have hd : t.dropWhile p = t := (List.dropWhile_suffix p).eq_of_length_le hinfix.length_le
    rw [stripWhere_eq, hd, List.rdropWhile_eq_self_iff] at h
    rw [List.dropWhile_eq_self_iff] at hd
    cases t with
    | nil => simp
    | cons c t =>
      refine ⟨by simpa using hd, fun d hdl => ?_⟩
      rw [List.getLast?_eq_some_getLast (List.cons_ne_nil c t), Option.mem_some_iff] at hdl
      simpa [hdl] using h (List.cons_ne_nil c t)
  · rintro ⟨hh, hl⟩
    cases t with
    | nil => rfl
    | cons c t =>
      rw [stripWhere_eq, List.dropWhile_cons_of_neg (by simpa using hh),
        List.rdropWhile_eq_self_iff]
      intro hne
      simpa using hl _ (List.getLast?_eq_some_getLast hne)

theorem stripWhere_stripWhere (p : Char → Bool) (t : Text) :
    (t.stripWhere p).stripWhere p = t.stripWhere p := by
  rw [stripWhere_eq_self_iff]
  constructor
  · -- the first character is that of what is left in front
    intro c hc
    rw [stripWhere_eq] at hc
    obtain ⟨s, hs⟩ := List.rdropWhile_prefix p (t.dropWhile p)
    have hd : c ∈ (t.dropWhile p).head? := by
      rw [← hs, List.head?_append, Option.mem_def.mp hc]
      rfl
    exact Bool.eq_false_iff.mpr fun hp => by
      have := List.head?_dropWhile_not p t
      rw [Option.mem_def.mp hd] at this
      simp [hp] at this
  · -- the last one is where the taking at the end stopped
    intro c hc
    rw [stripWhere_eq] at hc
    have hne : (t.dropWhile p).rdropWhile p ≠ [] := by
      intro h
      simp [h] at hc
    have := List.rdropWhile_last_not p _ hne
    rw [List.getLast?_eq_some_getLast hne, Option.mem_some_iff] at hc
    simpa [hc] using this

/-! ## Texts of one kind of character -/

/-- **Nothing but characters that satisfy** `p`. -/
def Only (p : Char → Bool) (t : Text) : Prop :=
  ∀ c ∈ t, p c = true

-- by the characters of the text: there are finitely many characters at all, but too many to try
instance (p : Char → Bool) (t : Text) : Decidable (Only p t) :=
  List.decidableBAll (fun c => p c = true) t

/-- **What is left behind the characters at the beginning**: nothing but such characters stand
before it, and it begins with another one. -/
theorem dropWhile_eq_iff {u : Text} :
    t.dropWhile p = u ↔ ∃ s : Text, Only p s ∧ t = s ++ u ∧ ∀ c ∈ u.head?, p c = false := by
  constructor
  · rintro rfl
    refine ⟨t.takeWhile p, fun c hc => List.mem_takeWhile_imp hc, ?_, fun c hc => ?_⟩
    · rw [List.takeWhile_append_dropWhile]
    · simpa [Option.mem_def.mp hc] using List.head?_dropWhile_not p t
  · rintro ⟨s, hs, rfl, hu⟩
    rw [List.dropWhile_append_of_pos hs]
    cases u with
    | nil => rfl
    | cons c u => exact List.dropWhile_cons_of_neg (by simp [hu c rfl])

/-! ## Blanks at the ends -/

/-- **No blank at either end.** -/
def Stripped (t : Text) : Prop :=
  t.strip = t

instance (t : Text) : Decidable t.Stripped :=
  inferInstanceAs (Decidable (t.strip = t))

theorem stripped_iff :
    t.Stripped ↔
      (∀ c ∈ t.head?, isBlank c = false) ∧ ∀ c ∈ t.getLast?, isBlank c = false :=
  stripWhere_eq_self_iff

theorem stripped_strip (t : Text) : t.strip.Stripped :=
  stripWhere_stripWhere isBlank t

theorem strip_isInfix (t : Text) : t.strip <:+: t :=
  stripWhere_isInfix isBlank t

@[simp] theorem strip_nil : strip [] = [] := rfl

/-- A text begun and ended by stripped ones is stripped, whatever is between them. -/
theorem Stripped.append_append {u : Text} (ht : t.Stripped) (hu : u.Stripped) (hne : t ≠ [])
    (hne' : u ≠ []) (s : Text) : Text.Stripped (t ++ (s ++ u)) := by
  rw [stripped_iff] at ht hu ⊢
  rw [List.head?_append_of_ne_nil _ hne, ← List.append_assoc,
    List.getLast?_append_of_ne_nil _ hne']
  exact ⟨ht.1, hu.2⟩

/-- Blanks before a text are stripped from it. -/
theorem strip_append_of_blank {s : Text} (hs : Only isBlank s) (t : Text) :
    strip (s ++ t) = t.strip := by
  rw [strip, strip, stripWhere_eq, stripWhere_eq, List.dropWhile_append_of_pos hs]

/-- Blanks behind a text are stripped from it. -/
theorem strip_append_of_blank_right {s : Text} (hs : Only isBlank s) (t : Text) :
    strip (t ++ s) = t.strip := by
  have hrdrop : ∀ u : Text, List.rdropWhile isBlank (u ++ s) = u.rdropWhile isBlank := by
    intro u
    rw [List.rdropWhile, List.reverse_append,
      List.dropWhile_append_of_pos fun c hc => hs c (List.mem_reverse.mp hc), List.rdropWhile]
  rw [strip, strip, stripWhere_eq, stripWhere_eq, List.dropWhile_append]
  split
  · -- the text is blank, and so is the whole
    next h =>
    rw [List.isEmpty_iff.mp h, List.dropWhile_eq_nil_iff.mpr hs]
  · exact hrdrop _

theorem strip_dropWhile (t : Text) : strip (t.dropWhile isBlank) = t.strip := by
  rw [strip, strip, stripWhere, stripWhere, List.dropWhile_idempotent]

/-- A character that is no blank ends what is stripped at the end. -/
theorem strip_concat {c : Char} (h : isBlank c = false) (t : Text) :
    strip (t ++ [c]) = t.dropWhile isBlank ++ [c] := by
  have hc : List.dropWhile isBlank [c] = [c] := List.dropWhile_cons_of_neg (by simp [h])
  have hdrop : List.dropWhile isBlank (t ++ [c]) = t.dropWhile isBlank ++ [c] := by
    rw [List.dropWhile_append, hc]
    split
    · next he => rw [List.isEmpty_iff.mp he, List.nil_append]
    · rfl
  rw [strip, stripWhere_eq, hdrop, List.rdropWhile_concat_neg isBlank _ c (by simp [h])]

/-- **What stripping takes** are blanks before the text that is left and behind it. -/
theorem exists_eq_append_strip (t : Text) :
    ∃ s s' : Text, Only isBlank s ∧ Only isBlank s' ∧ t = s ++ (t.strip ++ s') := by
  refine ⟨t.takeWhile isBlank, (t.dropWhile isBlank).rtakeWhile isBlank, ?_, ?_, ?_⟩
  · exact fun c hc => List.mem_takeWhile_imp hc
  · exact fun c hc => List.mem_rtakeWhile_imp hc
  · rw [strip, stripWhere_eq, List.rdropWhile_append_rtakeWhile, List.takeWhile_append_dropWhile]

theorem mem_dropWhile {c : Char} (h : c ∈ t) (hc : p c = false) : c ∈ t.dropWhile p := by
  rw [← List.takeWhile_append_dropWhile (p := p) (l := t)] at h
  refine (List.mem_append.mp h).resolve_left fun hleft => ?_
  rw [List.mem_takeWhile_imp hleft] at hc
  cases hc

/-- Stripping takes nothing but blanks. -/
theorem mem_strip {c : Char} (h : c ∈ t) (hc : isBlank c = false) : c ∈ t.strip := by
  rw [strip, stripWhere_eq, List.rdropWhile, List.mem_reverse]
  exact mem_dropWhile (List.mem_reverse.mpr (mem_dropWhile h hc)) hc

/-! ## Words -/

/-- The first word of a text and the rest. -/
theorem firstWord?_append {s w b r : Text} (hs : Only isBlank s) (hw : w ≠ [])
    (hw' : ∀ c ∈ w, isBlank c = false) (hb : b ≠ []) (hb' : Only isBlank b) (hr : r ≠ [])
    (hr' : ∀ c ∈ r.head?, isBlank c = false) : firstWord? (s ++ (w ++ (b ++ r))) = some (w, r) := by
  have hstart : List.dropWhile isBlank (s ++ (w ++ (b ++ r))) = w ++ (b ++ r) := by
    refine dropWhile_eq_iff.mpr ⟨s, hs, rfl, fun c hc => hw' c (List.mem_of_mem_head? ?_)⟩
    rwa [List.head?_append_of_ne_nil _ hw] at hc
  have hrest : List.dropWhile isBlank (b ++ r) = r :=
    dropWhile_eq_iff.mpr ⟨b, hb', rfl, hr'⟩
  have hword : ∀ c ∈ w, (!isBlank c) = true := fun c hc => by rw [hw' c hc]; rfl
  obtain ⟨c, b, rfl⟩ := List.exists_cons_of_ne_nil hb
  have hc : isBlank c = true := hb' c List.mem_cons_self
  have htake : List.takeWhile (!isBlank ·) (w ++ (c :: b ++ r)) = w := by
    simp [List.takeWhile_append_of_pos hword, hc]
  have hdrop : List.dropWhile (!isBlank ·) (w ++ (c :: b ++ r)) = c :: b ++ r := by
    simp [List.dropWhile_append_of_pos hword, hc]
  simp only [firstWord?, hstart, htake, hdrop, hrest]
  simp [hw, hr]

/-- A first word has blanks behind it, and what follows them. -/
theorem exists_of_firstWord?_eq_some {w r : Text} (h : t.firstWord? = some (w, r)) :
    ∃ s b : Text, Only isBlank s ∧ Only isBlank b ∧ b ≠ [] ∧ t = s ++ (w ++ (b ++ r)) := by
  rw [firstWord?] at h
  split at h
  · cases h
  · next hne =>
    obtain ⟨rfl, rfl⟩ := Prod.mk.inj (Option.some.inj h)
    rw [Bool.or_eq_true, List.isEmpty_iff, List.isEmpty_iff, not_or] at hne
    set u := (t.dropWhile isBlank).dropWhile (!isBlank ·) with hu
    refine ⟨t.takeWhile isBlank, u.takeWhile isBlank, ?_, ?_, ?_, ?_⟩
    · exact fun c hc => List.mem_takeWhile_imp hc
    · exact fun c hc => List.mem_takeWhile_imp hc
    · -- the word ends where something follows that is no part of it
      have hend := List.head?_dropWhile_not (!isBlank ·) (t.dropWhile isBlank)
      rw [← hu] at hend
      cases hcases : u with
      | nil => simp [hcases] at hne
      | cons c v =>
        have hc : isBlank c = true := by simpa [hcases] using hend
        rw [List.takeWhile_cons_of_pos hc]
        exact List.cons_ne_nil _ _
    · rw [List.takeWhile_append_dropWhile, hu, List.takeWhile_append_dropWhile,
        List.takeWhile_append_dropWhile]

end Roleplay.Text
