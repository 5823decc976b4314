import Roleplay.Proofs.Text.Lines
import Roleplay.Proofs.Text.Strip
import Roleplay.Text.Case

/-!
# Texts in small letters

Writing a text in small letters a second time changes nothing, since no table entry maps the image
of another. What is new in such a text are letters, so it is as long on the line, as stripped and
as free of colons as the text was.

## Main definitions

* `Text.IsSmall c`: `c` is its own small form, wherever it stands

## Main results

* `Text.lower_lower`: small letters stay
* `Text.mem_or_letter_of_mem_lower`: a character of `t.lower` is one of `t` or a letter
* `Text.SingleLine.lower`, `Text.Stripped.lower`, `Text.colon_notMem_lower`
* `Text.eq_of_isInfix_of_lower`: no proper piece of a text holds the whole text in small letters
-/

namespace Roleplay.Text

/-! ## The images of the table

A run maps an interval of code points to an interval. Its images are letters when the interval
holds none but letters, and are mapped no further when every run either lies beside the interval or
holds every second code point of it, the others being the images. -/

/-- The first image of a run. -/
def CaseRun.imageFirst (r : CaseRun) : Nat :=
  ((r.first : Int) + r.shift).toNat

/-- The last image of a run. -/
def CaseRun.imageLast (r : CaseRun) : Nat :=
  r.imageFirst + (r.last - r.first)

/-- Whether the run `s` maps no image of `r`. -/
def CaseRun.avoids (r s : CaseRun) : Bool :=
  r.imageLast.blt s.first || s.last.blt r.imageFirst ||
    (s.step.beq 2 && (r.step.beq 2 || r.first.beq r.last) &&
      ((r.imageFirst + s.first) % 2).beq 1)

/-- The images of a run are characters, no blanks, and beyond the capitals of ASCII. -/
structure CaseRun.Proper (r : CaseRun) : Prop where
  first_le : 97 ≤ r.imageFirst
  valid : r.imageLast < 0xd800 ∨ 0xdfff < r.imageFirst ∧ r.imageLast < 0x110000
  dotless : r.imageLast < 304 ∨ 304 < r.imageFirst
  blank : ∀ b ∈ blankRanges, r.imageLast < b.1 ∨ b.2 < r.imageFirst

instance (r : CaseRun) : Decidable r.Proper :=
  decidable_of_iff
    (97 ≤ r.imageFirst ∧
      (r.imageLast < 0xd800 ∨ 0xdfff < r.imageFirst ∧ r.imageLast < 0x110000) ∧
      (r.imageLast < 304 ∨ 304 < r.imageFirst) ∧
      ∀ b ∈ blankRanges, r.imageLast < b.1 ∨ b.2 < r.imageFirst)
    ⟨fun ⟨h₁, h₂, h₃, h₄⟩ => ⟨h₁, h₂, h₃, h₄⟩, fun h => ⟨h.first_le, h.valid, h.dotless, h.blank⟩⟩

theorem lowerRuns_proper : ∀ r ∈ lowerRuns, r.Proper := by decide +kernel

theorem lowerRuns_avoids : (lowerRuns.all fun r => lowerRuns.all r.avoids) = true := by
  decide +kernel

theorem CaseRun.holds_iff {r : CaseRun} {n : Nat} :
    r.holds n = true ↔ r.first ≤ n ∧ n ≤ r.last ∧ (n - r.first) % r.step = 0 := by
  simp [holds, and_assoc]

/-- The image of a code point, counted from the first image. -/
theorem CaseRun.image_eq {r : CaseRun} (hr : r.Proper) {n : Nat} (hn : r.first ≤ n) :
    ((n : Int) + r.shift).toNat = r.imageFirst + (n - r.first) := by
  have := hr.first_le
  unfold imageFirst at *
  omega

theorem CaseRun.not_holds_of_avoids {r s : CaseRun} (h : r.avoids s = true) {n : Nat}
    (hn : r.holds n = true) : s.holds (r.imageFirst + (n - r.first)) = false := by
  rw [holds_iff] at hn
  simp only [avoids, Bool.or_eq_true, Bool.and_eq_true, Nat.blt_eq, Nat.beq_eq] at h
  rw [Bool.eq_false_iff, ne_eq, holds_iff]
  rintro ⟨hs₁, hs₂, hs₃⟩
  unfold imageLast at h
  rcases h with (h | h) | ⟨⟨hs, hr'⟩, hpar⟩
  · omega
  · omega
  · -- every second code point on both sides, and the first ones differ in parity
    rw [hs] at hs₃
    rcases hr' with hr' | hr'
    · rw [hr'] at hn
      omega
    · omega

/-! ## Small characters -/

/-- **A small character**: one that is its own small form, wherever it stands. -/
def IsSmall (c : Char) : Prop :=
  lowerChar c = [c] ∧ c ≠ 'Σ'

instance (c : Char) : Decidable (IsSmall c) :=
  inferInstanceAs (Decidable (_ ∧ _))

/-- What a small form may hold: small characters that are the character itself or letters. -/
def SmallFormOf (c d : Char) : Prop :=
  IsSmall d ∧ (d = c ∨ 97 ≤ d.toNat ∧ isBlank d = false)

instance (c d : Char) : Decidable (SmallFormOf c d) :=
  inferInstanceAs (Decidable (_ ∧ _))

theorem isBlank_eq_false_of_proper {r : CaseRun} (hr : r.Proper) {d : Char}
    (h₁ : r.imageFirst ≤ d.toNat) (h₂ : d.toNat ≤ r.imageLast) : isBlank d = false := by
  rw [isBlank, Ranges.contains, List.any_eq_false]
  intro b hb
  have := hr.blank b hb
  simp only [Bool.and_eq_true, decide_eq_true_eq]
  omega

theorem smallFormOf_ascii : ∀ n < 128, SmallFormOf (Char.ofNat n) (Char.ofNat n).toLower := by
  decide +kernel

/-- A character that no run maps is small. -/
theorem isSmall_of_image?_eq_none {c : Char} (hc : 128 ≤ c.toNat) (hi : c ≠ 'İ')
    (h : CaseRun.image? lowerRuns c = none) : IsSmall c := by
  refine ⟨?_, ?_⟩
  · rw [lowerChar, if_neg (by omega), if_neg hi, h]
    rfl
  · rintro rfl
    exact absurd h (by decide)

/-- **The image of a character** under a run, counted from the first image. -/
theorem CaseRun.toNat_image {r : CaseRun} (hr : r.Proper) {c : Char} (h : r.holds c.toNat = true) :
    (Char.ofNat ((c.toNat : Int) + r.shift).toNat).toNat = r.imageFirst + (c.toNat - r.first) := by
  obtain ⟨hfirst, hlast, -⟩ := holds_iff.mp h
  have hle : r.imageFirst + (c.toNat - r.first) ≤ r.imageLast := by
    rw [imageLast]
    omega
  have hvalid : (r.imageFirst + (c.toNat - r.first)).isValidChar := by
    rcases hr.valid with hv | hv
    · exact Or.inl (by omega)
    · exact Or.inr (by omega)
  rw [image_eq hr hfirst, Char.ofNat, dif_pos hvalid]
  rfl

/-- The image of a run is a small letter. -/
theorem smallFormOf_image {c d : Char} (h : CaseRun.image? lowerRuns c = some d) :
    SmallFormOf c d := by
  obtain ⟨r, hfind, rfl⟩ := Option.map_eq_some_iff.mp h
  have hmem := List.mem_of_find?_eq_some hfind
  have hold : r.holds c.toNat = true := by simpa using List.find?_some hfind
  have hr := lowerRuns_proper r hmem
  obtain ⟨h₁, h₂, -⟩ := CaseRun.holds_iff.mp hold
  have htoNat := CaseRun.toNat_image hr hold
  rw [CaseRun.image_eq hr h₁] at htoNat ⊢
  set n := r.imageFirst + (c.toNat - r.first) with hn
  have hle : n ≤ r.imageLast := by
    rw [hn, CaseRun.imageLast]
    omega
  have hfirst := hr.first_le
  have hblank := isBlank_eq_false_of_proper (d := Char.ofNat n) hr (by omega) (by omega)
  refine ⟨?_, Or.inr ⟨by omega, hblank⟩⟩
  by_cases hascii : n < 128
  · -- the small letters of ASCII
    have hsmall : ∀ m < 128, 97 ≤ m → IsSmall (Char.ofNat m) := by decide +kernel
    exact hsmall n hascii (by omega)
  · refine isSmall_of_image?_eq_none (by omega) ?_ ?_
    · intro hdot
      have := hr.dotless
      have : n = 304 := by rw [← htoNat, hdot]; rfl
      omega
    · -- no run maps the image on
      rw [CaseRun.image?, Option.map_eq_none_iff, List.find?_eq_none]
      intro s hs
      have hall := List.all_eq_true.mp (List.all_eq_true.mp lowerRuns_avoids r hmem) s hs
      rw [htoNat, CaseRun.not_holds_of_avoids hall hold]
      exact Bool.false_ne_true

/-- Every character of a small form is small, and a letter unless it was there before. -/
theorem smallFormOf_of_mem_lowerChar {c d : Char} (h : d ∈ lowerChar c) : SmallFormOf c d := by
  rw [lowerChar] at h
  split at h
  · -- an ASCII character
    next hascii =>
    rw [List.mem_singleton.mp h]
    simpa using smallFormOf_ascii c.toNat hascii
  · next hascii =>
    split at h
    · -- the dotted capital, which becomes two characters
      next hdot =>
      have hi : SmallFormOf 'İ' 'i' := by decide +kernel
      have habove : SmallFormOf 'İ' '\u0307' := by decide +kernel
      rw [hdot]
      rcases List.mem_cons.mp h with rfl | h
      · exact hi
      · exact List.mem_singleton.mp h ▸ habove
    · -- any other character, mapped by a run or by none
      next hdot =>
      rw [List.mem_singleton.mp h]
      cases hi : CaseRun.image? lowerRuns c with
      | none =>
        have hsmall : IsSmall c := isSmall_of_image?_eq_none (by omega) hdot hi
        exact ⟨hsmall, Or.inl rfl⟩
      | some d => exact smallFormOf_image hi

/-! ## Small texts -/

/-- One character in small letters: some small form of it, and then the rest. -/
theorem exists_lowerAfter_cons (before : Text) (c : Char) (t : Text) :
    ∃ u : Text, u ≠ [] ∧ (∀ d ∈ u, SmallFormOf c d) ∧
      lowerAfter before (c :: t) = u ++ lowerAfter (c :: before) t := by
  rw [lowerAfter]
  split
  · -- a capital sigma has one of two small forms, as its place has it
    next hs =>
    refine ⟨_, List.cons_ne_nil _ _, ?_, rfl⟩
    intro d hd
    rw [List.mem_singleton.mp hd, hs]
    split
    · decide +kernel
    · decide +kernel
  · refine ⟨_, ?_, fun d => smallFormOf_of_mem_lowerChar, rfl⟩
    rw [lowerChar]
    split
    · exact List.cons_ne_nil _ _
    · split <;> exact List.cons_ne_nil _ _

/-- The last character in small letters stands at the end. -/
theorem exists_lowerAfter_concat (before t : Text) (c : Char) :
    ∃ u v : Text, v ≠ [] ∧ (∀ d ∈ v, SmallFormOf c d) ∧ lowerAfter before (t ++ [c]) = u ++ v := by
  induction t generalizing before with
  | nil =>
    obtain ⟨v, hne, hv, h⟩ := exists_lowerAfter_cons before c []
    exact ⟨[], v, hne, hv, by rw [List.nil_append, h, lowerAfter, List.append_nil, List.nil_append]⟩
  | cons e t ih =>
    obtain ⟨w, -, -, h⟩ := exists_lowerAfter_cons before e (t ++ [c])
    obtain ⟨u, v, hne, hv, ht⟩ := ih (e :: before)
    exact ⟨w ++ u, v, hne, hv, by rw [List.cons_append, h, ht, List.append_assoc]⟩

theorem exists_mem_of_mem_lowerAfter {before t : Text} {d : Char} (h : d ∈ lowerAfter before t) :
    ∃ c ∈ t, SmallFormOf c d := by
  induction t generalizing before with
  | nil => cases h
  | cons c t ih =>
    obtain ⟨u, -, hu, hc⟩ := exists_lowerAfter_cons before c t
    rw [hc] at h
    rcases List.mem_append.mp h with h | h
    · exact ⟨c, List.mem_cons_self, hu d h⟩
    · obtain ⟨e, he, hd⟩ := ih h
      exact ⟨e, List.mem_cons_of_mem c he, hd⟩

theorem isSmall_of_mem_lower {t : Text} {d : Char} (h : d ∈ t.lower) : IsSmall d :=
  let ⟨_, _, hd⟩ := exists_mem_of_mem_lowerAfter h
  hd.1

/-- **A character of a text in small letters** is one of the text or a letter. -/
theorem mem_or_letter_of_mem_lower {t : Text} {d : Char} (h : d ∈ t.lower) :
    d ∈ t ∨ 97 ≤ d.toNat ∧ isBlank d = false := by
  obtain ⟨c, hc, -, rfl | hd⟩ := exists_mem_of_mem_lowerAfter h
  · exact Or.inl hc
  · exact Or.inr hd

theorem lowerAfter_eq_self {t : Text} (h : ∀ c ∈ t, IsSmall c) (before : Text) :
    lowerAfter before t = t := by
  induction t generalizing before with
  | nil => rfl
  | cons c t ih =>
    obtain ⟨hc, hs⟩ := h c List.mem_cons_self
    rw [lowerAfter, if_neg hs, hc, ih fun d hd => h d (List.mem_cons_of_mem c hd)]
    rfl

/-- **Small letters stay.** -/
@[simp] theorem lower_lower (t : Text) : t.lower.lower = t.lower :=
  lowerAfter_eq_self (fun _ => isSmall_of_mem_lower) []

@[simp] theorem lower_eq_nil_iff {t : Text} : t.lower = [] ↔ t = [] := by
  cases t with
  | nil => simp [lower, lowerAfter]
  | cons c t =>
    obtain ⟨u, hne, -, h⟩ := exists_lowerAfter_cons [] c t
    simp [lower, h, hne]

theorem SingleLine.lower {t : Text} (h : t.SingleLine) : t.lower.SingleLine := by
  intro d hd
  rcases mem_or_letter_of_mem_lower hd with hd | ⟨-, hd⟩
  · exact h d hd
  · exact Bool.eq_false_iff.mpr fun hb => Bool.eq_false_iff.mp hd (isBlank_of_isLineBreak hb)

theorem colon_notMem_lower {t : Text} (h : ':' ∉ t) : ':' ∉ t.lower := by
  intro hd
  rcases mem_or_letter_of_mem_lower hd with hd | ⟨hd, -⟩
  · exact h hd
  · exact absurd hd (by decide)

/-- A small character stays where it stands. -/
theorem mem_lower_of_isSmall {t : Text} {c : Char} (hc : IsSmall c) (h : c ∈ t) : c ∈ t.lower := by
  have hafter : ∀ before : Text, c ∈ lowerAfter before t := by
    induction t with
    | nil => cases h
    | cons d t ih =>
      intro before
      rw [lowerAfter]
      rcases List.mem_cons.mp h with rfl | h
      · rw [if_neg hc.2, hc.1]
        exact List.mem_append_left _ List.mem_cons_self
      · exact List.mem_append_right _ (ih h _)
  exact hafter []

theorem colon_mem_lower {t : Text} (h : ':' ∈ t) : ':' ∈ t.lower :=
  mem_lower_of_isSmall (by decide) h

theorem SmallFormOf.not_blank {c d : Char} (h : SmallFormOf c d) (hc : isBlank c = false) :
    isBlank d = false := by
  rcases h.2 with rfl | ⟨-, hd⟩
  · exact hc
  · exact hd

theorem Stripped.lower {t : Text} (h : t.Stripped) : t.lower.Stripped := by
  rw [stripped_iff] at h ⊢
  constructor
  · -- the first character comes from the first one
    intro d hd
    cases t with
    | nil => cases hd
    | cons c t =>
      obtain ⟨u, hne, hu, hc⟩ := exists_lowerAfter_cons [] c t
      rw [Text.lower, hc, List.head?_append_of_ne_nil _ hne] at hd
      exact (hu d (List.mem_of_head? hd)).not_blank (h.1 c rfl)
  · -- the last one comes from the last one
    intro d hd
    rcases List.eq_nil_or_concat t with rfl | ⟨t, c, rfl⟩
    · cases hd
    · rw [List.concat_eq_append] at hd h
      obtain ⟨u, v, hne, hv, hc⟩ := exists_lowerAfter_concat [] t c
      rw [Text.lower, hc, List.getLast?_append_of_ne_nil _ hne] at hd
      exact (hv d (List.mem_of_getLast? hd)).not_blank (h.2 c (by simp))

/-! ## Lengths -/

/-- The length of a text in small letters is told by its characters, wherever it stands. -/
theorem length_lowerAfter (before t : Text) :
    (lowerAfter before t).length = (t.flatMap lowerChar).length := by
  induction t generalizing before with
  | nil => rfl
  | cons c t ih =>
    rw [lowerAfter, List.length_append, ih, List.flatMap_cons, List.length_append]
    congr 1
    split
    · next hs =>
      -- both small forms of a capital sigma are single characters, and so is that of the table
      have hsigma : (lowerChar 'Σ').length = 1 := by decide +kernel
      rw [hs, hsigma, List.length_singleton]
    · rfl

theorem length_lower_append (t u : Text) :
    (lower (t ++ u)).length = t.lower.length + u.lower.length := by
  simp only [lower, length_lowerAfter, List.flatMap_append, List.length_append]

theorem lower_length_eq_zero_iff {t : Text} : t.lower.length = 0 ↔ t = [] := by
  rw [List.length_eq_zero_iff, lower_eq_nil_iff]

/-- **No proper piece of a text** holds the whole text in small letters. -/
theorem eq_of_isInfix_of_lower {t u : Text} (h : t <:+: u) (hl : u.lower <:+: t.lower) :
    t = u := by
  obtain ⟨a, b, rfl⟩ := h
  have hlength := hl.length_le
  rw [length_lower_append, length_lower_append] at hlength
  have ha : a = [] := lower_length_eq_zero_iff.mp (by omega)
  have hb : b = [] := lower_length_eq_zero_iff.mp (by omega)
  rw [ha, hb, List.nil_append, List.append_nil]

end Roleplay.Text
