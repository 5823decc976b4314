import Mathlib.Data.List.Nodup
import Roleplay.Proofs.Text.Lower
import Roleplay.Proofs.Text.Occurrence
import Roleplay.World.Recovery

/-!
# The parts of a line

A line is taken apart into its bullet, its label and its value, and a label selects an entity. Every
part is a piece of the line, stripped, and the label has no colon. Put together again from parts
that are clean already, a line gives the same parts.

## Main definitions

* `bulletMarks`: the marks that begin a bulleted line
* `Text.IsLabel t`, `Text.IsValue t`: what is read back as a label and as a value

## Main results

* `splitColon?_append`, `splitColon?_eq_some`: the two sides of a colon
* `dropBullet?_eq_none`: a line without a bullet
* `EntityNames.longest?_eq_some_iff`, `EntityNames.match?_eq_longest?`: the name that is matched is
  the first of the longest ones in the label
* `EntityNames.find?_of_select?`, `EntityNames.select?_mem`: only entities with a display name are
  selected, and are found by it
* `EntityNames.select?_display`, `EntityNames.select?_eq_none`, `EntityNames.select?_ne_none`: which
  labels select which
-/

namespace Roleplay

open Text

/-! ## Cleaning -/

theorem stripped_cleanLabel (t : Text) : (cleanLabel t).Stripped :=
  stripped_strip _

theorem cleanLabel_isInfix (t : Text) : cleanLabel t <:+: t :=
  (strip_isInfix _).trans ((stripWhere_isInfix _ _).trans (strip_isInfix t))

theorem cleanLabel_strip (t : Text) : cleanLabel t.strip = cleanLabel t := by
  have hstrip : t.strip.strip = t.strip := stripped_strip t
  rw [cleanLabel, hstrip, cleanLabel]

theorem stripped_cleanValue (t : Text) : (cleanValue t).Stripped :=
  stripped_strip _

theorem cleanValue_isInfix (t : Text) : cleanValue t <:+: t :=
  (strip_isInfix _).trans ((stripWhere_isInfix _ _).trans (strip_isInfix t))

/-- The marks that begin a bulleted line. -/
def bulletMarks : List Text :=
  [['-', ' '], ['*', ' '], ['•', ' '], ['+', ' ']]

/-- **A label**: a piece of one line without a colon, with no bullet before it, that cleaning
leaves as it is. -/
structure Text.IsLabel (t : Text) : Prop where
  ne : t ≠ []
  singleLine : t.SingleLine
  colonFree : ':' ∉ t
  noBullet : ∀ m ∈ bulletMarks, ¬ m <+: t
  clean : cleanLabel t = t

/-- **A value**: a piece of one line that cleaning leaves as it is. -/
structure Text.IsValue (t : Text) : Prop where
  singleLine : t.SingleLine
  clean : cleanValue t = t

instance (t : Text) : Decidable t.IsLabel :=
  decidable_of_iff
    (t ≠ [] ∧ t.SingleLine ∧ ':' ∉ t ∧ (∀ m ∈ bulletMarks, ¬ m <+: t) ∧ cleanLabel t = t)
    ⟨fun ⟨h₁, h₂, h₃, h₄, h₅⟩ => ⟨h₁, h₂, h₃, h₄, h₅⟩,
      fun h => ⟨h.ne, h.singleLine, h.colonFree, h.noBullet, h.clean⟩⟩

instance (t : Text) : Decidable t.IsValue :=
  decidable_of_iff (t.SingleLine ∧ cleanValue t = t)
    ⟨fun ⟨h₁, h₂⟩ => ⟨h₁, h₂⟩, fun h => ⟨h.singleLine, h.clean⟩⟩

theorem Text.IsLabel.stripped {t : Text} (h : t.IsLabel) : t.Stripped :=
  h.clean ▸ stripped_cleanLabel t

theorem Text.IsValue.stripped {t : Text} (h : t.IsValue) : t.Stripped :=
  h.clean ▸ stripped_cleanValue t

/-! ## Taking a line apart -/

/-- The sides of the first colon. -/
theorem splitColon?_append {label : Text} (hne : label ≠ []) (h : ':' ∉ label) (value : Text) :
    splitColon? (label ++ ':' :: value) = some (label.strip, value.strip) := by
  obtain ⟨c, label, rfl⟩ := List.exists_cons_of_ne_nil hne
  rw [splitColon?, cut?_append_cons h]

/-- The sides of a colon are pieces of the line, and the first of them has no colon. -/
theorem splitColon?_eq_some {line label value : Text} (h : splitColon? line = some (label, value)) :
    ':' ∉ label ∧ label ⊆ line ∧ value ⊆ line := by
  rw [splitColon?] at h
  split at h
  · next c l v hcut =>
    obtain ⟨rfl, rfl⟩ := Prod.mk.inj (Option.some.inj h)
    have hline := eq_of_cut?_eq_some hcut
    have hl : Text.strip (c :: l) ⊆ c :: l := (strip_isInfix _).subset
    have hv : v.strip ⊆ v := (strip_isInfix _).subset
    refine ⟨fun hc => notMem_of_cut?_eq_some hcut (hl hc), fun d hd => ?_, fun d hd => ?_⟩
    · rw [hline, List.append_assoc]
      exact List.mem_append_left _ (hl hd)
    · rw [hline]
      exact List.mem_append_right _ (hv hd)
  · cases h

/-- What follows a bullet is a piece of the line. -/
theorem dropBullet?_subset {line body : Text} (h : dropBullet? line = some body) :
    body ⊆ line := by
  rw [dropBullet?.eq_def] at h
  split at h
  · split at h
    · cases h
      exact List.nil_subset _
    · cases h
  · split at h
    · cases h
      intro d hd
      exact List.mem_cons_of_mem _ (List.mem_cons_of_mem _ ((strip_isInfix _).subset hd))
    · cases h
  · cases h

/-- A label without a bullet begins a line without one. -/
theorem dropBullet?_eq_none {label : Text} (hne : label ≠ [])
    (h : ∀ m ∈ bulletMarks, ¬ m <+: label) (value : Text) :
    dropBullet? (label ++ ':' :: value) = none := by
  match label, hne, h with
  | [c], _, _ => rfl
  | c :: d :: label, _, h =>
    rw [dropBullet?.eq_def]
    split
    · next hc => simp at hc
    · next c' t' hc =>
      obtain ⟨rfl, hd⟩ := List.cons.inj hc
      obtain ⟨rfl, -⟩ := List.cons.inj hd
      rw [if_neg]
      intro hb
      simp only [isBullet, Bool.or_eq_true, beq_iff_eq] at hb
      refine h [c, ' '] ?_ ⟨label, rfl⟩
      rcases hb with ((rfl | rfl) | rfl) | rfl <;> simp [bulletMarks]
    · rfl

/-! ## Selecting entities -/

namespace EntityNames

variable {labels : Labels} {names : EntityNames} {label key n : Text}

theorem mem_ofLabels {n : Text × Text} :
    n ∈ ofLabels labels ↔
      ∃ display, (n.2, display) ∈ labels ∧ display.strip ≠ [] ∧ n.1 = display.strip.lower := by
  simp only [ofLabels, List.mem_filter, List.mem_map]
  constructor
  · rintro ⟨⟨⟨k, display⟩, hmem, rfl⟩, hne⟩
    refine ⟨display, hmem, ?_, rfl⟩
    rintro hs
    simp [hs] at hne
  · rintro ⟨display, hmem, hne, hn⟩
    refine ⟨⟨(n.2, display), hmem, Prod.ext hn.symm rfl⟩, ?_⟩
    simp [hn, lower_eq_nil_iff, hne]

theorem longest?_mem {n : Text × Text} (h : longest? names = some n) : n ∈ names := by
  induction names generalizing n with
  | nil => cases h
  | cons m ns ih =>
    rw [longest?] at h
    split at h
    · cases h
      exact List.mem_cons_self
    · next hm =>
      split at h
      · cases h
        exact List.mem_cons_of_mem _ (ih hm)
      · cases h
        exact List.mem_cons_self

theorem longest?_eq_none_iff : longest? names = none ↔ names = [] := by
  cases names with
  | nil => simp [longest?]
  | cons m ns =>
    rw [longest?]
    split
    · simp
    · split <;> simp

/-- **The longest name**: the ones before it are shorter, and those behind it are no longer. -/
theorem longest?_eq_some_iff {m : Text × Text} :
    longest? names = some m ↔ ∃ before after : EntityNames, names = before ++ m :: after ∧
      (∀ n ∈ before, n.1.length < m.1.length) ∧ ∀ n ∈ after, n.1.length ≤ m.1.length := by
  constructor
  · intro h
    induction names generalizing m with
    | nil => cases h
    | cons n ns ih =>
      unfold longest? at h
      split at h
      · next hrest =>
        -- nothing is behind the name
        obtain rfl := Option.some.inj h
        obtain rfl := longest?_eq_none_iff.mp hrest
        exact ⟨[], [], rfl, by simp, by simp⟩
      · next k hrest =>
        obtain ⟨before, after, rfl, hbefore, hafter⟩ := ih hrest
        split at h
        · next hlt =>
          obtain rfl := Option.some.inj h
          exact ⟨n :: before, after, rfl, List.forall_mem_cons.mpr ⟨hlt, hbefore⟩, hafter⟩
        · next hle =>
          -- the longest name behind it is no longer, and so no other one is
          obtain rfl := Option.some.inj h
          refine ⟨[], before ++ k :: after, rfl, by simp, fun i hi => ?_⟩
          rcases List.mem_append.mp hi with hi | hi
          · exact (hbefore i hi).le.trans (not_lt.mp hle)
          · rcases List.mem_cons.mp hi with rfl | hi
            · exact not_lt.mp hle
            · exact (hafter i hi).trans (not_lt.mp hle)
  · rintro ⟨before, after, rfl, hbefore, hafter⟩
    induction before with
    | nil =>
      rw [List.nil_append, longest?]
      cases hrest : longest? after with
      | none => rfl
      | some k => exact if_neg (not_lt.mpr (hafter k (longest?_mem hrest)))
    | cons n before ih =>
      obtain ⟨hn, hbefore⟩ := List.forall_mem_cons.mp hbefore
      rw [List.cons_append, longest?, ih hbefore]
      simp [hn]

/-- The longest name is found by itself: of equally long ones it is the first. -/
theorem find?_longest? {m : Text × Text} (h : longest? names = some m) :
    names.find? (·.1 = m.1) = some m := by
  obtain ⟨before, after, rfl, hbefore, -⟩ := longest?_eq_some_iff.mp h
  refine List.find?_eq_some_iff_append.mpr ⟨by simp, before, after, rfl, fun n hn => ?_⟩
  have hne : n.1 ≠ m.1 := fun heq => (hbefore n hn).ne (congrArg List.length heq)
  simpa using hne

/-- A name that the text is, is the longest in the text; it is the first one found. -/
theorem longest?_of_find? {t : Text} {m : Text × Text} (h : names.find? (·.1 = t) = some m) :
    longest? (names.filter fun n => t.contains n.1) = some m := by
  obtain ⟨hm, before, after, rfl, hbefore⟩ := List.find?_eq_some_iff_append.mp h
  obtain rfl : m.1 = t := of_decide_eq_true hm
  have hself : m.1.contains m.1 = true := contains_iff_isInfix.mpr (List.infix_refl _)
  refine longest?_eq_some_iff.mpr ⟨before.filter fun n => m.1.contains n.1,
    after.filter fun n => m.1.contains n.1, ?_, fun n hn => ?_, fun n hn => ?_⟩
  · rw [List.filter_append, List.filter_cons, if_pos hself]
  · -- a piece of the text that is as long would be the text, and found before
    obtain ⟨hn, hin⟩ := List.mem_filter.mp hn
    have hpiece : n.1 <:+: m.1 := contains_iff_isInfix.mp hin
    have hne : n.1 ≠ m.1 := by simpa using hbefore n hn
    exact lt_of_le_of_ne hpiece.length_le fun hlength => hne (hpiece.eq_of_length hlength)
  · exact (contains_iff_isInfix.mp (List.mem_filter.mp hn).2).length_le

/-- **The search for the whole label changes nothing.** -/
theorem match?_eq_longest? (names : EntityNames) (label : Text) :
    names.match? label =
      (longest? (names.filter fun n => label.lower.contains n.1)).map (·.2) := by
  unfold match?
  split
  · next n key hfind =>
    rw [longest?_of_find? hfind, Option.map_some]
  · rfl

theorem match?_mem (h : names.match? label = some key) : ∃ n, (n, key) ∈ names := by
  rw [match?_eq_longest?] at h
  obtain ⟨⟨n, k⟩, hn, rfl⟩ := Option.map_eq_some_iff.mp h
  exact ⟨n, (List.mem_filter.mp (longest?_mem hn)).1⟩

/-- **A selected entity is found by a name** that the label contains. -/
theorem find?_of_select? (h : names.select? label = some key) :
    key ≠ [] ∧ ∃ n, names.find? (·.1 = n) = some (n, key) ∧ n <:+: label.lower := by
  rw [select?, Option.filter_eq_some_iff, match?_eq_longest?] at h
  obtain ⟨⟨n, k⟩, hn, rfl⟩ := Option.map_eq_some_iff.mp h.1
  refine ⟨by simpa using h.2, n, ?_⟩
  -- the longest name in the label is found among the other names too
  have hcontains : label.lower.contains n = true := (List.mem_filter.mp (longest?_mem hn)).2
  have hfind := find?_longest? hn
  refine ⟨?_, contains_iff_isInfix.mp hcontains⟩
  rw [List.find?_filter] at hfind
  rw [← hfind]
  congr 1
  funext m
  by_cases hmn : m.1 = n
  · simp [hmn, hcontains]
  · simp [hmn]

/-- **Only entities with a name are selected**, by labels that contain it. -/
theorem select?_mem (h : names.select? label = some key) :
    key ≠ [] ∧ ∃ n, (n, key) ∈ names ∧ n <:+: label.lower := by
  obtain ⟨hk, n, hfind, hpiece⟩ := find?_of_select? h
  exact ⟨hk, n, List.mem_of_find?_eq_some hfind, hpiece⟩

/-- A label that is a name selects the entity that is found by it. -/
theorem select?_of_find? (h : names.find? (·.1 = label.lower) = some (n, key)) (hk : key ≠ []) :
    names.select? label = some key := by
  rw [select?, match?, h]
  simp [hk]

theorem isExact_of_find? (h : names.find? (·.1 = label.lower) = some (n, key)) :
    names.isExact label = true :=
  List.any_eq_true.mpr ⟨_, List.mem_of_find?_eq_some h, by simpa using List.find?_some h⟩

theorem select?_lower (names : EntityNames) (label : Text) :
    names.select? label.lower = names.select? label := by
  simp only [select?, match?, lower_lower]

/-- **A display name selects its entity**, when no other is like it. -/
theorem select?_display (hdistinct : (labels.map (·.2.lower)).Nodup)
    (hstripped : ∀ l ∈ labels, l.2.Stripped) {display : Text} (h : (key, display) ∈ labels)
    (hk : key ≠ []) (hd : display ≠ []) : (ofLabels labels).select? display = some key := by
  have hs : display.strip = display := hstripped _ h
  have hmem : (display.lower, key) ∈ ofLabels labels :=
    mem_ofLabels.mpr ⟨display, h, hs.symm ▸ hd, by rw [hs]⟩
  have hm : (ofLabels labels).match? display = some key := by
    rw [match?]
    split
    · -- the entry that is found has a display name like this one, so it is the same entry
      next n key' hf =>
      obtain ⟨d, hd', -, hn⟩ := mem_ofLabels.mp (List.mem_of_find?_eq_some hf)
      have hlower : n = display.lower := by simpa using List.find?_some hf
      have hds : d.strip = d := hstripped _ hd'
      have hsame : d.lower = display.lower := by rw [← hlower, ← hds, ← hn]
      have hentry : (key', d) = (key, display) := List.inj_on_of_nodup_map hdistinct hd' h hsame
      rw [(Prod.mk.inj hentry).1]
    · -- and one is found
      next hf => exact absurd (List.find?_eq_none.mp hf _ hmem) (by simp)
  rw [select?, hm]
  simp [hk]

/-- **A label without a display name in it selects nothing.** -/
theorem select?_eq_none (hstripped : ∀ l ∈ labels, l.2.Stripped)
    (h : ∀ l ∈ labels, ¬ l.2.lower <:+: label.lower) : (ofLabels labels).select? label = none := by
  rw [Option.eq_none_iff_forall_ne_some]
  intro key hkey
  obtain ⟨-, n, hn, hpiece⟩ := select?_mem hkey
  obtain ⟨display, hmem, -, hname⟩ := mem_ofLabels.mp hn
  have hs : display.strip = display := hstripped _ hmem
  rw [hs] at hname
  exact h _ hmem (hname ▸ hpiece)

/-- **A label with a display name in it selects an entity**, when no key is empty. -/
theorem select?_ne_none (hstripped : ∀ l ∈ labels, l.2.Stripped) (hkeys : ∀ l ∈ labels, l.1 ≠ [])
    {l : Text × Text} (hl : l ∈ labels) (hd : l.2 ≠ []) (h : l.2.lower <:+: label.lower) :
    (ofLabels labels).select? label ≠ none := by
  have hs : l.2.strip = l.2 := hstripped _ hl
  have hmem : (l.2.lower, l.1) ∈ ofLabels labels :=
    mem_ofLabels.mpr ⟨l.2, hl, hs.symm ▸ hd, by rw [hs]⟩
  have hsome : (ofLabels labels).match? label ≠ none := by
    rw [match?_eq_longest?, ne_eq, Option.map_eq_none_iff, longest?_eq_none_iff]
    exact List.ne_nil_of_mem (List.mem_filter.mpr ⟨hmem, contains_iff_isInfix.mpr h⟩)
  obtain ⟨key, hkey⟩ := Option.ne_none_iff_exists'.mp hsome
  obtain ⟨n, hn⟩ := match?_mem hkey
  obtain ⟨display, hdisplay, -, -⟩ := mem_ofLabels.mp hn
  have hne : key ≠ [] := hkeys _ hdisplay
  rw [select?, hkey]
  simp [hne]

theorem isExact_eq_false (hstripped : ∀ l ∈ labels, l.2.Stripped)
    (h : ∀ l ∈ labels, l.2.lower ≠ label.lower) : (ofLabels labels).isExact label = false := by
  rw [isExact, List.any_eq_false]
  intro n hn hlabel
  obtain ⟨display, hmem, -, hname⟩ := mem_ofLabels.mp hn
  have hs : display.strip = display := hstripped _ hmem
  rw [hs] at hname
  exact h _ hmem (hname ▸ of_decide_eq_true hlabel)

end EntityNames

end Roleplay
