import Roleplay.Proofs.Text.Lower
import Roleplay.Text.Fold

/-!
# Texts equal up to case

A text begins with another one up to case when a piece of the same length does, character by
character. Folding leads to letters only: whatever is folded to a character below the small letters,
a line feed or a brace, say, is that character.

## Main definitions

* `Text.SameFolded t u`: `t` and `u` are equal up to case

## Main results

* `Text.dropFolded?_eq_some_iff`: what follows a text up to case
* `Text.eq_of_fold_eq`, `Text.SameFolded.mem_iff`: marks are equal to themselves only
-/

namespace Roleplay.Text

/-- **Equality of texts up to case.** -/
def SameFolded (t u : Text) : Prop :=
  t.map fold = u.map fold

instance (t u : Text) : Decidable (t.SameFolded u) :=
  inferInstanceAs (Decidable (_ = _))

theorem foldEq_iff {c d : Char} : foldEq c d = true ↔ fold c = fold d :=
  beq_iff_eq

/-- **What follows a text up to case**: the rest behind a piece that is equal to it so. -/
theorem dropFolded?_eq_some_iff {t p r : Text} :
    t.dropFolded? p = some r ↔ ∃ word : Text, t = word ++ r ∧ word.SameFolded p := by
  induction p generalizing t with
  | nil => simp [dropFolded?, SameFolded]
  | cons c p ih =>
    cases t with
    | nil => simp [dropFolded?, SameFolded]
    | cons d t =>
      rw [dropFolded?]
      split
      · next hcd =>
        rw [ih]
        constructor
        · rintro ⟨word, rfl, hword⟩
          refine ⟨d :: word, rfl, ?_⟩
          rw [SameFolded, List.map_cons, List.map_cons, foldEq_iff.mp hcd, hword]
        · rintro ⟨_ | ⟨e, word⟩, ht, hword⟩
          · cases hword
          · obtain ⟨-, rfl⟩ := List.cons.inj ht
            exact ⟨word, rfl, (List.cons.inj hword).2⟩
      · next hcd =>
        constructor
        · intro h
          cases h
        · rintro ⟨_ | ⟨e, word⟩, ht, hword⟩
          · cases hword
          · obtain ⟨rfl, -⟩ := List.cons.inj ht
            exact absurd (foldEq_iff.mpr (List.cons.inj hword).1.symm) hcd

/-! ## Marks -/

theorem foldRuns_proper : ∀ r ∈ foldRuns, r.Proper := by decide +kernel

theorem toLower_ascii :
    ∀ n < 128, (Char.ofNat n).toLower = Char.ofNat n ∨ 97 ≤ (Char.ofNat n).toLower.toNat := by
  decide +kernel

/-- A character is folded to itself or to a letter. -/
theorem fold_eq_or_le (c : Char) : fold c = c ∨ 97 ≤ (fold c).toNat := by
  rw [fold]
  split
  · next hascii =>
    have hlower := toLower_ascii c.toNat hascii
    rwa [Char.ofNat_toNat] at hlower
  · cases himage : CaseRun.image? foldRuns c with
    | none => exact .inl rfl
    | some d =>
      -- the images of every run lie beyond the capitals of ASCII
      obtain ⟨r, hfind, rfl⟩ := Option.map_eq_some_iff.mp himage
      have hr := foldRuns_proper r (List.mem_of_find?_eq_some hfind)
      have hold : r.holds c.toNat = true := by simpa using List.find?_some hfind
      have hfirst := hr.first_le
      refine .inr ?_
      rw [Option.getD_some, CaseRun.toNat_image hr hold]
      omega

/-- **A mark that is folded to** is the character itself. -/
theorem eq_of_fold_eq {c d : Char} (hd : d.toNat < 97) (h : fold c = d) : c = d := by
  rcases fold_eq_or_le c with hself | hletter
  · exact hself.symm.trans h
  · rw [h] at hletter
    omega

/-- **A mark stands in texts that are equal up to case** or in neither. -/
theorem SameFolded.mem_iff {t u : Text} (h : t.SameFolded u) {c : Char} (hc : c.toNat < 97)
    (hfold : fold c = c) : c ∈ t ↔ c ∈ u := by
  have hmem : ∀ v : Text, c ∈ v ↔ c ∈ v.map fold := by
    intro v
    rw [List.mem_map]
    constructor
    · exact fun hv => ⟨c, hv, hfold⟩
    · rintro ⟨d, hd, hdc⟩
      exact eq_of_fold_eq hc hdc ▸ hd
  rw [hmem t, hmem u, h]

end Roleplay.Text
