import Mathlib.Data.List.Basic
import Roleplay.Text.Blank

/-!
# Lines

A text without line breaks is a line, the lines of a text are such texts, and lines joined by line
feeds are read back, the last of them unless it is empty.

## Main definitions

* `Text.SingleLine t`: `t` has no line break

## Main results

* `Text.singleLine_of_mem_lines`: the lines of a text
* `Text.exists_lines_append_newline`: the lines of two texts with a line feed between them
* `Text.lines_join`: joined lines are read back
-/

namespace Roleplay.Text

/-- **A text on one line.** -/
def SingleLine (t : Text) : Prop :=
  ∀ c ∈ t, isLineBreak c = false

instance (t : Text) : Decidable t.SingleLine :=
  List.decidableBAll (fun c => isLineBreak c = false) t

variable {t u : Text}

theorem SingleLine.mono (h : t.SingleLine) (hu : u ⊆ t) : u.SingleLine :=
  fun c hc => h c (hu hc)

theorem SingleLine.append (ht : t.SingleLine) (hu : u.SingleLine) : Text.SingleLine (t ++ u) := by
  intro c hc
  rcases List.mem_append.mp hc with hc | hc
  · exact ht c hc
  · exact hu c hc

/-- Line breaks are blanks. -/
theorem isBlank_of_isLineBreak {c : Char} (h : isLineBreak c = true) : isBlank c = true := by
  simp only [isLineBreak, lineBreakRanges, Ranges.contains, List.any_cons, List.any_nil,
    Bool.or_eq_true, Bool.and_eq_true, decide_eq_true_eq, Bool.or_false] at h
  simp only [isBlank, blankRanges, Ranges.contains, List.any_cons, List.any_nil, Bool.or_eq_true,
    Bool.and_eq_true, decide_eq_true_eq, Bool.or_false]
  omega

/-! ## Reading lines -/

/-- A character that is no line break belongs to the line that follows it. -/
theorem lines_cons {c : Char} (h : isLineBreak c = false) (t : Text) :
    lines (c :: t) = (c :: t.lines.headD []) :: t.lines.tail := by
  have hr : c ≠ '\r' := by
    rintro rfl
    exact absurd h (by decide)
  rw [lines.eq_3 c t fun _ hc _ => hr hc, if_neg (Bool.eq_false_iff.mp h)]
  cases t.lines with
  | nil => rfl
  | cons l ls => rfl

/-- **The lines of a text** have no line breaks. -/
theorem singleLine_of_mem_lines {l : Text} (h : l ∈ t.lines) : l.SingleLine := by
  fun_induction lines t generalizing l with
  | case1 => cases h
  | case2 t ih =>
    rcases List.mem_cons.mp h with rfl | h
    · exact fun _ hc => absurd hc List.not_mem_nil
    · exact ih h
  | case3 c t _ hb ih =>
    rcases List.mem_cons.mp h with rfl | h
    · exact fun _ hc => absurd hc List.not_mem_nil
    · exact ih h
  | case4 c t _ hb hls ih =>
    rw [List.mem_singleton.mp h]
    simpa [SingleLine] using hb
  | case5 c t _ hb l' ls hls ih =>
    -- the first line is longer by `c`, the others are those of the rest
    rcases List.mem_cons.mp h with rfl | h
    · intro d hd
      rcases List.mem_cons.mp hd with rfl | hd
      · simpa using hb
      · exact ih (hls ▸ List.mem_cons_self) d hd
    · exact ih (hls ▸ List.mem_cons_of_mem _ h)

/-- What stands before the first line feed is the first line. -/
theorem lines_append_newline (h : t.SingleLine) (u : Text) :
    lines (t ++ '\n' :: u) = t :: u.lines := by
  induction t with
  | nil => rw [List.nil_append, lines.eq_3 '\n' u (by simp), if_pos (by decide)]
  | cons c t ih =>
    have ht : Text.SingleLine t := h.mono (List.subset_cons_self c t)
    rw [List.cons_append, lines_cons (h c List.mem_cons_self), ih ht]
    rfl

theorem lines_eq_nil_iff : t.lines = [] ↔ t = [] := by
  fun_cases lines t <;> simp_all

/-- **Two texts with a line feed between them** have the lines of both, and nothing else but an
empty line between them where the first one ends its last line itself. -/
theorem exists_lines_append_newline (t u : Text) :
    ∃ gap : List Text, (∀ l ∈ gap, l = []) ∧
      lines (t ++ '\n' :: u) = t.lines ++ (gap ++ u.lines) := by
  have hempty : lines ('\n' :: u) = [] :: u.lines :=
    lines_append_newline (t := []) (by simp [SingleLine]) u
  fun_induction lines t with
  | case1 => exact ⟨[[]], by simp, hempty⟩
  | case2 t ih =>
    obtain ⟨gap, hgap, hlines⟩ := ih
    refine ⟨gap, hgap, ?_⟩
    rw [List.cons_append, List.cons_append, lines.eq_2, hlines]
    rfl
  | case3 c t hr hb ih =>
    by_cases hlast : c = '\r' ∧ t = []
    · -- the line feed belongs to the carriage return before it
      obtain ⟨rfl, rfl⟩ := hlast
      exact ⟨[], by simp, lines.eq_2 u⟩
    · obtain ⟨gap, hgap, hlines⟩ := ih
      refine ⟨gap, hgap, ?_⟩
      rw [List.cons_append, lines.eq_3, if_pos hb, hlines]
      · rfl
      · rintro t' rfl ht
        cases t with
        | nil => exact hlast ⟨rfl, rfl⟩
        | cons d t => exact hr t rfl (congrArg (· :: t) (List.cons.inj ht).1)
  | case4 c t hr hb hls ih =>
    -- the last line of the first text has no break of its own, so the line feed ends it
    have hb : isLineBreak c = false := by simpa using hb
    rw [lines_eq_nil_iff.mp hls]
    exact ⟨[], by simp, lines_append_newline (t := [c]) (by simpa [SingleLine] using hb) u⟩
  | case5 c t hr hb l ls hls ih =>
    obtain ⟨gap, hgap, hlines⟩ := ih
    refine ⟨gap, hgap, ?_⟩
    rw [List.cons_append, lines_cons (by simpa using hb), hlines, hls]
    rfl

theorem lines_of_singleLine (h : t.SingleLine) (hne : t ≠ []) : t.lines = [t] := by
  induction t with
  | nil => exact absurd rfl hne
  | cons c t ih =>
    have ht : Text.SingleLine t := h.mono (List.subset_cons_self c t)
    rw [lines_cons (h c List.mem_cons_self)]
    cases t with
    | nil => rfl
    | cons d t => rw [ih ht (List.cons_ne_nil d t)]; rfl

@[simp] theorem join_singleton (sep l : Text) : join sep [l] = l :=
  List.intercalate_singleton

theorem join_cons_cons (sep l m : Text) (ls : List Text) :
    join sep (l :: m :: ls) = l ++ (sep ++ join sep (m :: ls)) := by
  rw [join, List.intercalate_cons_cons, List.append_assoc, join]

/-- A character of joined texts is one of the separator or of a text. -/
theorem mem_join {sep : Text} {ls : List Text} {c : Char} (h : c ∈ join sep ls) :
    c ∈ sep ∨ ∃ l ∈ ls, c ∈ l := by
  induction ls with
  | nil => cases h
  | cons l ls ih =>
    cases ls with
    | nil => exact Or.inr ⟨l, List.mem_cons_self, by simpa using h⟩
    | cons m ls =>
      rw [join_cons_cons, List.mem_append, List.mem_append] at h
      rcases h with h | h | h
      · exact Or.inr ⟨l, List.mem_cons_self, h⟩
      · exact Or.inl h
      · exact (ih h).imp_right fun ⟨n, hn, hc⟩ => ⟨n, List.mem_cons_of_mem l hn, hc⟩

theorem join_cons_of_ne_nil (sep l : Text) {ls : List Text} (h : ls ≠ []) :
    join sep (l :: ls) = l ++ (sep ++ join sep ls) := by
  obtain ⟨m, ls, rfl⟩ := List.exists_cons_of_ne_nil h
  exact join_cons_cons sep l m ls

theorem join_append_of_ne_nil (sep : Text) {ls ms : List Text} (hl : ls ≠ []) (hm : ms ≠ []) :
    join sep (ls ++ ms) = join sep ls ++ (sep ++ join sep ms) := by
  induction ls with
  | nil => exact absurd rfl hl
  | cons l ls ih =>
    cases ls with
    | nil => rw [List.singleton_append, join_cons_of_ne_nil sep l hm, join_singleton]
    | cons l' ls =>
      rw [List.cons_append, join_cons_of_ne_nil sep l (by simp), ih (by simp), join_cons_cons]
      simp only [List.append_assoc]

/-- Joined pieces joined are their parts joined. -/
theorem join_map_join (sep : Text) {lss : List (List Text)} (h : ∀ ls ∈ lss, ls ≠ []) :
    join sep (lss.map (join sep)) = join sep lss.flatten := by
  induction lss with
  | nil => rfl
  | cons ls lss ih =>
    have hls := h ls List.mem_cons_self
    have hlss := fun ms hms => h ms (List.mem_cons_of_mem ls hms)
    cases lss with
    | nil => simp
    | cons ms lss =>
      -- one separator between the last part of `ls` and the first of the others
      have hne : (ms :: lss).flatten ≠ [] := by
        simp [hlss ms List.mem_cons_self]
      rw [List.map_cons, join_cons_of_ne_nil sep _ (by simp), ih hlss,
        ← join_append_of_ne_nil sep hls hne]
      rfl

theorem intercalate_ne_nil {ls : List Text} (h : ls ≠ []) (lss : List (List Text)) :
    List.intercalate [[]] (ls :: lss) ≠ [] := by
  cases lss with
  | nil => rwa [List.intercalate_singleton]
  | cons => simp [List.intercalate_cons_cons]

/-- Joined pieces with the separator twice between them have an empty part between them. -/
theorem join_append_self_map_join (sep : Text) {lss : List (List Text)} (h : ∀ ls ∈ lss, ls ≠ []) :
    join (sep ++ sep) (lss.map (join sep)) = join sep (List.intercalate [[]] lss) := by
  induction lss with
  | nil => rfl
  | cons ls lss ih =>
    have hls := h ls List.mem_cons_self
    have hlss := fun ms hms => h ms (List.mem_cons_of_mem ls hms)
    cases lss with
    | nil => simp
    | cons ms lss =>
      have hne := intercalate_ne_nil (hlss ms List.mem_cons_self) lss
      -- the empty part between the groups has a separator on both sides
      have hempty : join sep ([] :: List.intercalate [[]] (ms :: lss)) =
          sep ++ join sep (List.intercalate [[]] (ms :: lss)) :=
        join_cons_of_ne_nil sep [] hne
      have hsplit : List.intercalate [[]] (ls :: ms :: lss) =
          ls ++ [] :: List.intercalate [[]] (ms :: lss) := by
        rw [List.intercalate_cons_cons, List.append_assoc, List.singleton_append]
      rw [List.map_cons, join_cons_of_ne_nil _ _ (by simp), ih hlss, hsplit,
        join_append_of_ne_nil sep hls (List.cons_ne_nil _ _), hempty, List.append_assoc sep]

/-! ## Groups of lines -/

/-- A line of groups with empty lines between them is empty or stands in a group. -/
theorem mem_intercalate {lss : List (List Text)} {l : Text} (h : l ∈ List.intercalate [[]] lss) :
    l = [] ∨ ∃ ls ∈ lss, l ∈ ls := by
  induction lss with
  | nil => cases h
  | cons ls lss ih =>
    cases lss with
    | nil => exact Or.inr ⟨ls, List.mem_cons_self, by simpa using h⟩
    | cons ms lss =>
      rw [List.intercalate_cons_cons, List.mem_append, List.mem_append] at h
      rcases h with (h | h) | h
      · exact Or.inr ⟨ls, List.mem_cons_self, h⟩
      · exact Or.inl (List.mem_singleton.mp h)
      · exact (ih h).imp_right fun ⟨ms, hms, hl⟩ => ⟨ms, List.mem_cons_of_mem ls hms, hl⟩

/-- The last of the lines is that of the last group. -/
theorem ne_nil_of_mem_getLast?_intercalate {lss : List (List Text)}
    (h : ∀ ls ∈ lss, ls ≠ [] ∧ ∀ l ∈ ls, l ≠ []) {l : Text}
    (hl : l ∈ (List.intercalate [[]] lss).getLast?) : l ≠ [] := by
  induction lss with
  | nil => cases hl
  | cons ls lss ih =>
    have hrest := ih fun ms hms => h ms (List.mem_cons_of_mem ls hms)
    cases lss with
    | nil =>
      rw [List.intercalate_singleton] at hl
      exact (h ls List.mem_cons_self).2 l (List.mem_of_getLast? hl)
    | cons ms lss =>
      have hms := (h ms (List.mem_cons_of_mem ls List.mem_cons_self)).1
      have hne := intercalate_ne_nil hms lss
      rw [List.intercalate_cons_cons, List.getLast?_append_of_ne_nil _ hne] at hl
      exact hrest hl

/-- **Lines joined by line feeds are read back**, if the last of them is not empty. -/
theorem lines_join {ls : List Text} (h : ∀ l ∈ ls, l.SingleLine)
    (hlast : ∀ l ∈ ls.getLast?, l ≠ []) : lines (join ['\n'] ls) = ls := by
  induction ls with
  | nil => rfl
  | cons l ls ih =>
    cases ls with
    | nil =>
      rw [join_singleton]
      exact lines_of_singleLine (h l List.mem_cons_self) (hlast l rfl)
    | cons m ls =>
      have hrest := ih (fun l hl => h l (List.mem_cons_of_mem _ hl)) (by simpa using hlast)
      -- the first line feed is the one behind `l`, which has no line break
      rw [join_cons_cons, List.singleton_append, lines_append_newline (h l List.mem_cons_self),
        hrest]

end Roleplay.Text
