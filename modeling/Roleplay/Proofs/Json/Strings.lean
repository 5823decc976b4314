import Roleplay.Json.Writer
import Roleplay.Proofs.Json.Grammar

/-!
# Written strings

A character in a string is written as itself, as an escape of one letter, or by the hexadecimal
digits of its code point, in two units when one does not hold it. Each of these spells the code
points that it was written for, and the halves of a pair are joined again.

## Main definitions

* `Json.pointsOf`: the code points as which a character is written
* `Json.Written`: the ways in which a character is written

## Main results

* `Json.hexQuad?_hex`: four hexadecimal digits are read back
* `Json.Written.spellsPoints`: a written character spells its code points
* `Json.spellsString_writeString`: a written string spells the string
-/

namespace Roleplay.Json

/-! ## Hexadecimal digits -/

theorem hexDigit?_digitChar {n : Nat} (hn : n < 16) : hexDigit? n.digitChar = some n := by
  have hall : ∀ k : Fin 16, hexDigit? (Nat.digitChar k) = some (k : Nat) := by decide
  exact hall ⟨n, hn⟩

/-- Four hexadecimal digits, those in front zeros. -/
theorem hex_eq {n : Nat} (hn : n < 0x10000) :
    Text.hex 4 n = [(n / 0x1000).digitChar, (n / 0x100 % 16).digitChar, (n / 0x10 % 16).digitChar,
      (n % 16).digitChar] := by
  have hdigits : ∀ k, 16 ≤ k →
      Nat.toDigits 16 k = Nat.toDigits 16 (k / 16) ++ [(k % 16).digitChar] :=
    fun k => Nat.toDigits_of_base_le (by decide)
  have hlast : ∀ k, k < 16 → Nat.toDigits 16 k = [k.digitChar] :=
    fun k => Nat.toDigits_of_lt_base
  have h₂ : n / 16 / 16 = n / 0x100 := Nat.div_div_eq_div_mul n 16 16
  have h₃ : n / 0x100 / 16 = n / 0x1000 := Nat.div_div_eq_div_mul n 0x100 16
  rw [Text.hex, Text.padLeft]
  -- by the number of digits that are not zeros in front
  by_cases hlt₁ : n < 16
  · rw [hlast n hlt₁, show n / 0x1000 = 0 by omega, show n / 0x100 % 16 = 0 by omega,
      show n / 0x10 % 16 = 0 by omega, Nat.mod_eq_of_lt hlt₁]
    rfl
  · rw [hdigits n (by omega)]
    by_cases hlt₂ : n / 16 < 16
    · rw [hlast _ hlt₂, show n / 0x1000 = 0 by omega, show n / 0x100 % 16 = 0 by omega,
        Nat.mod_eq_of_lt hlt₂]
      rfl
    · rw [hdigits (n / 16) (by omega), h₂]
      by_cases hlt₃ : n / 0x100 < 16
      · rw [hlast _ hlt₃, show n / 0x1000 = 0 by omega, Nat.mod_eq_of_lt hlt₃]
        rfl
      · rw [hdigits (n / 0x100) (by omega), h₃, hlast _ (by omega)]
        rfl

/-- **Four hexadecimal digits are read back.** -/
theorem hexQuad?_hex {n : Nat} (hn : n < 0x10000) {a b c d : Char}
    (h : Text.hex 4 n = [a, b, c, d]) : hexQuad? a b c d = some n := by
  rw [hex_eq hn] at h
  cases h
  rw [hexQuad?, hexDigit?_digitChar (by omega), hexDigit?_digitChar (by omega),
    hexDigit?_digitChar (by omega), hexDigit?_digitChar (by omega)]
  simp only [Option.bind_eq_bind, Option.bind_some, Option.pure_def, Option.some.injEq]
  omega

theorem exists_hex {n : Nat} (hn : n < 0x10000) : ∃ a b c d, Text.hex 4 n = [a, b, c, d] :=
  ⟨_, _, _, _, hex_eq hn⟩

/-! ## Characters -/

/-- **The code points as which a character is written**: two halves when it is escaped and one unit
does not hold it. -/
def pointsOf (escapeNonAscii : Bool) (c : Char) : List Nat :=
  if escapeNonAscii ∧ 0x10000 ≤ c.toNat then
    [0xD800 + (c.toNat - 0x10000) / 0x400, 0xDC00 + (c.toNat - 0x10000) % 0x400]
  else [c.toNat]

/-- No character has the code point of half a pair, and none lies beyond the last plane. -/
theorem toNat_valid (c : Char) : (c.toNat < 0xD800 ∨ 0xDFFF < c.toNat) ∧ c.toNat < 0x110000 := by
  rcases c.valid with h | ⟨h₁, h₂⟩
  · have h' : c.toNat < 0xD800 := h
    omega
  · have h₁' : 0xDFFF < c.toNat := h₁
    have h₂' : c.toNat < 0x110000 := h₂
    omega

theorem spellsPoints_unitEscape {n : Nat} (hn : n < 0x10000) {t : Text} {ns : List Nat}
    (ht : SpellsPoints t ns) : SpellsPoints (unitEscape n ++ t) (n :: ns) := by
  obtain ⟨a, b, c, d, hex⟩ := exists_hex hn
  rw [unitEscape, hex]
  exact .unit (hexQuad?_hex hn hex) ht

theorem toNat_lt_of_simpleEscape? {k c : Char} (h : simpleEscape? k = some c) :
    c.toNat < 0x10000 := by
  rw [simpleEscape?.eq_def] at h
  split at h
  all_goals cases h
  all_goals decide

/-- **The ways in which a character is written**: as an escape of one letter, as one of a unit, as
one of a pair, or as itself. -/
inductive Written (escape : Bool) (c : Char) : Text → Prop
  | letter {k : Char} (hk : simpleEscape? k = some c) : Written escape c ['\\', k]
  | unit (h : c.toNat < 0x10000) : Written escape c (unitEscape c.toNat)
  | pair (hescape : escape = true) (h : 0x10000 ≤ c.toNat) :
    Written escape c (unitEscape (0xD800 + (c.toNat - 0x10000) / 0x400)
      ++ unitEscape (0xDC00 + (c.toNat - 0x10000) % 0x400))
  | itself (hquote : c ≠ '"') (hslash : c ≠ '\\') (hcontrol : ¬ c.toNat < 0x20)
      (hplane : ¬ (escape = true ∧ 0x10000 ≤ c.toNat)) : Written escape c [c]

theorem written_writeChar (escape : Bool) (c : Char) : Written escape c (writeChar escape c) := by
  -- the characters with an escape of one letter
  by_cases hquote : c = '"'
  · subst hquote
    exact .letter rfl
  by_cases hslash : c = '\\'
  · subst hslash
    exact .letter rfl
  by_cases hfeed : c = '\n'
  · subst hfeed
    exact .letter rfl
  by_cases hreturn : c = '\r'
  · subst hreturn
    exact .letter rfl
  by_cases htab : c = '\t'
  · subst htab
    exact .letter rfl
  by_cases hback : c = '\x08'
  · subst hback
    exact .letter rfl
  by_cases hform : c = '\x0c'
  · subst hform
    exact .letter rfl
  rw [writeChar, if_neg hquote, if_neg hslash, if_neg hfeed, if_neg hreturn, if_neg htab,
    if_neg hback, if_neg hform]
  -- the other control characters, those beyond ASCII, and the rest
  by_cases hcontrol : c.toNat < 0x20
  · rw [if_pos hcontrol]
    exact .unit (by omega)
  rw [if_neg hcontrol]
  by_cases hescape : (escape && decide (0x7F ≤ c.toNat)) = true
  · rw [if_pos hescape, pointEscape]
    rw [Bool.and_eq_true] at hescape
    by_cases hlt : c.toNat < 0x10000
    · rw [if_pos hlt]
      exact .unit hlt
    · rw [if_neg hlt]
      exact .pair hescape.1 (by omega)
  · rw [if_neg hescape]
    refine .itself hquote hslash hcontrol ?_
    rintro ⟨htrue, hge⟩
    apply hescape
    rw [htrue, Bool.true_and]
    exact decide_eq_true (by omega)

/-- **A written character spells its code points.** -/
theorem Written.spellsPoints {escape : Bool} {c : Char} {w t : Text} {ns : List Nat}
    (h : Written escape c w) (ht : SpellsPoints t ns) :
    SpellsPoints (w ++ t) (pointsOf escape c ++ ns) := by
  have hone : ¬ (escape = true ∧ 0x10000 ≤ c.toNat) → pointsOf escape c = [c.toNat] :=
    fun h => if_neg h
  cases h with
  | letter hk =>
    have hlt := toNat_lt_of_simpleEscape? hk
    rw [hone fun h => absurd h.2 (by omega)]
    exact .letter hk ht
  | unit hlt =>
    rw [hone fun h => absurd h.2 (by omega)]
    exact spellsPoints_unitEscape hlt ht
  | pair hescape hge =>
    have hvalid := (toNat_valid c).2
    have hpoints : pointsOf escape c =
        [0xD800 + (c.toNat - 0x10000) / 0x400, 0xDC00 + (c.toNat - 0x10000) % 0x400] :=
      if_pos ⟨hescape, hge⟩
    rw [hpoints, List.append_assoc]
    exact spellsPoints_unitEscape (by omega) (spellsPoints_unitEscape (by omega) ht)
  | itself hquote hslash hcontrol hplane =>
    rw [hone hplane]
    exact .itself hquote hslash hcontrol ht

/-! ## Strings -/

theorem spellsPoints_flatMap (escape : Bool) (s : Text) :
    SpellsPoints (s.flatMap (writeChar escape)) (s.flatMap (pointsOf escape)) := by
  induction s with
  | nil => exact .nil
  | cons c s ih =>
    rw [List.flatMap_cons, List.flatMap_cons]
    exact (written_writeChar escape c).spellsPoints ih

theorem charOfPoint_toNat (c : Char) : charOfPoint c.toNat = c := by
  have hvalid := (toNat_valid c).1
  have hnot : ¬((decide (0xD800 ≤ c.toNat) && decide (c.toNat ≤ 0xDFFF)) = true) := by
    simp only [Bool.and_eq_true, decide_eq_true_eq]
    omega
  rw [charOfPoint, if_neg hnot, Char.ofNat_toNat]

/-- **The halves of a pair are joined again**, and no others. -/
theorem joinSurrogates_flatMap (escape : Bool) (s : Text) :
    joinSurrogates (s.flatMap (pointsOf escape)) = s := by
  have hjoin : ∀ (c : Char) (ns : List Nat),
      joinSurrogates (pointsOf escape c ++ ns) = c :: joinSurrogates ns := by
    intro c ns
    obtain ⟨hvalid, hlast⟩ := toNat_valid c
    rw [pointsOf]
    by_cases hpair : escape = true ∧ 0x10000 ≤ c.toNat
    · rw [if_pos hpair, List.cons_append, List.cons_append, List.nil_append,
        joinSurrogates, if_pos (by omega)]
      have hpoint : 0x10000 + (0xD800 + (c.toNat - 0x10000) / 0x400 - 0xD800) * 0x400 +
          (0xDC00 + (c.toNat - 0x10000) % 0x400 - 0xDC00) = c.toNat := by
        have hge := hpair.2
        omega
      rw [hpoint, Char.ofNat_toNat]
    · rw [if_neg hpair, List.singleton_append]
      cases ns with
      | nil => rw [joinSurrogates, joinSurrogates, charOfPoint_toNat]
      | cons n ns => rw [joinSurrogates, if_neg (by omega), charOfPoint_toNat]
  induction s with
  | nil => rfl
  | cons c s ih => rw [List.flatMap_cons, hjoin, ih]

/-- **A written string spells the string.** -/
theorem spellsString_writeString (escape : Bool) (s : Text) :
    SpellsString (writeString escape s) s := by
  refine ⟨_, _, spellsPoints_flatMap escape s, rfl, ?_⟩
  rw [joinSurrogates_flatMap]

end Roleplay.Json
