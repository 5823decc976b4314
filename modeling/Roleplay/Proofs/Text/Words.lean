import Roleplay.Proofs.Text.Lines
import Roleplay.Proofs.Text.Strip
import Roleplay.Text.Alphanumeric

/-!
# Words and phrases

A word character is no blank. A phrase is made of words of letters and numerals with spaces between
them, as a name is: it stands on one line, has no mark of any kind in it, and begins and ends with a
letter or a numeral.

## Main definitions

* `Text.IsPhrase t`: `t` is made of words, with spaces between them

## Main results

* `Text.isBlank_eq_false_of_isWord`: no word character is a blank
* `Text.IsPhrase.notMem`, `Text.IsPhrase.singleLine`: what a phrase has not
* `Text.IsPhrase.stripWhere_eq`: nothing but letters and numerals can be taken from its ends
-/

namespace Roleplay.Text

/-- No blank is a word character. -/
theorem isWord_eq_false_of_isBlank {c : Char} (h : isBlank c = true) : isWord c = false := by
  have hall : ∀ r ∈ blankRanges, ∀ n ∈ List.range' r.1 (r.2 + 1 - r.1),
      isWord (Char.ofNat n) = false := by decide +kernel
  obtain ⟨r, hr, hc⟩ := List.any_eq_true.mp h
  simp only [Bool.and_eq_true, decide_eq_true_eq] at hc
  have hn : c.toNat ∈ List.range' r.1 (r.2 + 1 - r.1) := List.mem_range'_1.mpr (by omega)
  simpa using hall r hr c.toNat hn

theorem isBlank_eq_false_of_isWord {c : Char} (h : isWord c = true) : isBlank c = false := by
  rw [Bool.eq_false_iff]
  intro hb
  rw [isWord_eq_false_of_isBlank hb] at h
  exact Bool.false_ne_true h

theorem isBlank_eq_false_of_isAlphanumeric {c : Char} (h : isAlphanumeric c = true) :
    isBlank c = false :=
  isBlank_eq_false_of_isWord (by rw [isWord, h, Bool.true_or])

/-- **A phrase**: words of letters and numerals, with spaces between them and at neither end. -/
structure IsPhrase (t : Text) : Prop where
  ne : t ≠ []
  words : t.Only fun c => isAlphanumeric c || c == ' '
  stripped : t.Stripped

instance (t : Text) : Decidable t.IsPhrase :=
  decidable_of_iff (t ≠ [] ∧ (t.Only fun c => isAlphanumeric c || c == ' ') ∧ t.Stripped)
    ⟨fun ⟨h₁, h₂, h₃⟩ => ⟨h₁, h₂, h₃⟩, fun h => ⟨h.ne, h.words, h.stripped⟩⟩

namespace IsPhrase

variable {t : Text}

theorem isAlphanumeric_or_eq (h : t.IsPhrase) {c : Char} (hc : c ∈ t) :
    isAlphanumeric c = true ∨ c = ' ' := by
  simpa using h.words c hc

/-- **Nothing else stands in a phrase.** -/
theorem notMem (h : t.IsPhrase) {c : Char} (hc : isAlphanumeric c = false) (hs : c ≠ ' ') :
    c ∉ t := by
  intro hmem
  rcases h.isAlphanumeric_or_eq hmem with hc' | hs'
  · rw [hc] at hc'
    exact Bool.false_ne_true hc'
  · exact hs hs'

/-- **A phrase stands on one line.** -/
theorem singleLine (h : t.IsPhrase) : t.SingleLine := by
  intro c hc
  rw [Bool.eq_false_iff]
  intro hbreak
  rcases h.isAlphanumeric_or_eq hc with hc | rfl
  · have hblank := isBlank_of_isLineBreak hbreak
    rw [isBlank_eq_false_of_isAlphanumeric hc] at hblank
    exact Bool.false_ne_true hblank
  · exact absurd hbreak (by decide)

/-- A phrase is left as it is where no letter and no numeral is taken from its ends. -/
theorem stripWhere_eq (h : t.IsPhrase) {p : Char → Bool}
    (hp : ∀ c, p c = true → isAlphanumeric c = false) : t.stripWhere p = t := by
  obtain ⟨hhead, hlast⟩ := stripped_iff.mp h.stripped
  -- what is at an end is no space, since the ends are no blanks
  have hend : ∀ c ∈ t, isBlank c = false → p c = false := by
    intro c hc hblank
    rw [Bool.eq_false_iff]
    intro hpc
    rcases h.isAlphanumeric_or_eq hc with hc | rfl
    · rw [hp c hpc] at hc
      exact Bool.false_ne_true hc
    · exact absurd hblank (by decide)
  rw [stripWhere_eq_self_iff]
  constructor
  · intro c hc
    exact hend c (List.mem_of_head? hc) (hhead c hc)
  · intro c hc
    exact hend c (List.mem_of_getLast? hc) (hlast c hc)

end IsPhrase

end Roleplay.Text
