import Roleplay.Proofs.Number.Notation
import Roleplay.Proofs.Number.Shortest

/-!
# Numerals of binary numbers

A numeral of a binary number has digits before its point, digits behind it and an exponent; of the
last two at least one. Every layout writes such a numeral, and it spells the number that was
written, wherever no digit, point or exponent follows it.

## Main definitions

* `Numeral.Literal`: the parts of a numeral
* `Layout.IsLiteralOf`: the numerals of a decimal

## Main results

* `Numeral.Literal.WellFormed.spellsNumber`: a numeral spells a number by its parts
* `Layout.exists_literal`: what a layout writes is a numeral of the decimal
* `Layout.exists_literal_writeFinite`, `Layout.spellsNumber_writeFinite`: the numeral of a number
  that is written, and the number that it spells
-/

namespace Roleplay

namespace Numeral

/-! ## The parts of a numeral -/

/-- **The parts of a numeral**: the digits before the point, those behind it, and the exponent. -/
structure Literal where
  whole : Text
  fraction : Text
  exponent : Option (Bool × Text)

namespace Literal

/-- The point and the digits behind it. -/
def fractionText (l : Literal) : Text :=
  if l.fraction = [] then [] else '.' :: l.fraction

/-- The exponent with its mark and its sign. -/
def exponentText (l : Literal) : Text :=
  match l.exponent with
  | none => []
  | some (negative, ds) => 'e' :: (if negative then '-' else '+') :: ds

/-- **The text of a numeral.** -/
def text (l : Literal) : Text :=
  l.whole ++ l.fractionText ++ l.exponentText

/-- **Numerals** have digits in all their parts, and a zero in front only by itself. -/
structure WellFormed (l : Literal) : Prop where
  whole : l.whole.AllDigits
  fraction : l.fraction.AllDigits
  exponent : ∀ p ∈ l.exponent, p.2.AllDigits ∧ p.2 ≠ []
  front : l.whole = ['0'] ∨ ∃ c t, l.whole = c :: t ∧ c ≠ '0'

/-- **Numerals of binary numbers** have a part behind the front one. -/
def IsBinary (l : Literal) : Prop :=
  l.fraction ≠ [] ∨ l.exponent ≠ none

/-- The power of ten of the last digit. -/
def power (l : Literal) : Int :=
  (match l.exponent with
    | none => 0
    | some (negative, ds) => signed negative (valueOf ds)) - l.fraction.length

/-- The digits of a numeral as a number. -/
def digits (l : Literal) : Nat :=
  valueOf (l.whole ++ l.fraction)

variable {l : Literal}

theorem WellFormed.isWhole (h : l.WellFormed) : IsWhole l.whole :=
  ⟨h.whole, h.front⟩

theorem WellFormed.isFraction (h : l.WellFormed) : IsFraction l.fractionText l.fraction := by
  rw [fractionText]
  by_cases hfraction : l.fraction = []
  · rw [if_pos hfraction, hfraction]
    exact .missing
  · rw [if_neg hfraction]
    exact .point h.fraction hfraction

theorem WellFormed.isExponent (h : l.WellFormed) :
    IsExponent l.exponentText (l.power + l.fraction.length) := by
  rw [exponentText, power, Int.sub_add_cancel]
  cases hexponent : l.exponent with
  | none => exact .missing
  | some p =>
    obtain ⟨hds, hne⟩ := h.exponent _ hexponent
    exact .signed p.1 (Or.inl rfl) hds hne

/-- A numeral with a part behind the front one spells a binary number. -/
theorem WellFormed.spellsNumber (h : l.WellFormed) (hbinary : l.IsBinary) (fits : Nat → Prop)
    (negative : Bool) :
    Json.SpellsNumber fits ((if negative then ['-'] else []) ++ l.text)
      (.float (.ofDecimal negative l.digits l.power)) := by
  have hpart : ¬(l.fractionText = [] ∧ l.exponentText = []) := by
    rw [fractionText, exponentText]
    rintro ⟨hfraction, hexponent⟩
    rcases hbinary with hne | hne
    · rw [if_neg hne] at hfraction
      cases hfraction
    · obtain ⟨p, hp⟩ := Option.ne_none_iff_exists'.mp hne
      rw [hp] at hexponent
      cases hexponent
  have hspells : Json.SpellsNumber fits _ _ :=
    .float negative h.isWhole h.isFraction h.isExponent hpart
  rw [Int.add_sub_cancel] at hspells
  rw [text, List.append_assoc]
  exact hspells

end Literal

end Numeral

/-! ## Numerals in documents -/

namespace Json

/-- **The numeral of a whole number** spells it. -/
theorem spellsNumber_ofInt {fits : Nat → Prop} {i : Int}
    (hfits : fits (Text.ofNat i.natAbs).length) : SpellsNumber fits (Text.ofInt i) (.int i) := by
  obtain ⟨negative, n, hsigned, hn, htext⟩ : ∃ (negative : Bool) (n : Nat),
      Numeral.signed negative n = i ∧ i.natAbs = n ∧
        Text.ofInt i = (if negative then ['-'] else []) ++ Text.ofNat n := by
    cases i with
    | ofNat n => exact ⟨false, n, rfl, rfl, rfl⟩
    | negSucc n => exact ⟨true, n + 1, rfl, rfl, rfl⟩
  have hwhole : Numeral.IsWhole (Text.ofNat n) := by
    refine ⟨Text.allDigits_ofNat n, ?_⟩
    by_cases hzero : n = 0
    · exact Or.inl (by rw [hzero]; rfl)
    · exact Or.inr (Text.ofNat_eq_cons hzero)
  rw [hn] at hfits
  have hspells := SpellsNumber.int negative hwhole hfits
  rw [Numeral.valueOf_ofNat, hsigned] at hspells
  rw [htext]
  exact hspells

end Json

/-! ## What a layout writes -/

namespace Layout

open Numeral (Literal valueOf)

theorem front_ofNat {n : Nat} (hn : n ≠ 0) (t : Text) :
    Text.ofNat n ++ t = ['0'] ∨ ∃ c t', Text.ofNat n ++ t = c :: t' ∧ c ≠ '0' := by
  obtain ⟨c, t', hct, hc⟩ := Text.ofNat_eq_cons hn
  exact Or.inr ⟨c, t' ++ t, by rw [hct]; rfl, hc⟩

theorem front_take {n : Nat} (hn : n ≠ 0) {k : Nat} (hk : 0 < k) :
    (Text.ofNat n).take k = ['0'] ∨ ∃ c t, (Text.ofNat n).take k = c :: t ∧ c ≠ '0' := by
  obtain ⟨c, t, hct, hc⟩ := Text.ofNat_eq_cons hn
  obtain ⟨k, rfl⟩ : ∃ k', k = k' + 1 := ⟨k - 1, by omega⟩
  exact Or.inr ⟨c, t.take k, by rw [hct]; rfl, hc⟩

/-- **Numerals of a decimal**: of a binary number, with the value of the digits times the power. -/
structure IsLiteralOf (t : Literal) (d : Nat) (p : Int) : Prop where
  wellFormed : t.WellFormed
  isBinary : t.IsBinary
  value : (t.digits : ℚ) * 10 ^ t.power = d * 10 ^ p

theorem forall_mem_none {P : Bool × Text → Prop} : ∀ q ∈ (none : Option (Bool × Text)), P q := by
  intro q hq
  cases hq

/-- **Below one**: a zero in front, and zeros behind the point. -/
theorem exists_literal_of_neg {d : Nat} {p top : Int}
    (htop : p + (Text.ofNat d).length - 1 = top) (hneg : top < 0) :
    ∃ t : Literal, IsLiteralOf t d p ∧
      ['0', '.'] ++ List.replicate (-top - 1).toNat '0' ++ Text.ofNat d = t.text := by
  have hdigits := Text.allDigits_ofNat d
  have hne : List.replicate (-top - 1).toNat '0' ++ Text.ofNat d ≠ [] :=
    List.append_ne_nil_of_right_ne_nil _ (List.ne_nil_of_length_pos (Text.length_ofNat_pos d))
  have hvalue : valueOf (['0'] ++ (List.replicate (-top - 1).toNat '0' ++ Text.ofNat d)) = d := by
    rw [← List.append_assoc, show ['0'] ++ List.replicate (-top - 1).toNat '0' =
      List.replicate ((-top - 1).toNat + 1) '0' from rfl,
      Numeral.valueOf_replicate_append _ hdigits, Numeral.valueOf_ofNat]
  have hpower : (0 : Int) -
      ((List.replicate (-top - 1).toNat '0' ++ Text.ofNat d).length : Nat) = p := by
    rw [List.length_append, List.length_replicate]
    omega
  refine ⟨⟨['0'], List.replicate (-top - 1).toNat '0' ++ Text.ofNat d, none⟩,
    ⟨⟨Text.allDigits_replicate 1, ?_, forall_mem_none, Or.inl rfl⟩, Or.inl hne, ?_⟩, ?_⟩
  · exact Text.allDigits_append.mpr ⟨Text.allDigits_replicate _, hdigits⟩
  · simp only [Literal.digits, Literal.power, hvalue, hpower]
  · simp only [Literal.text, Literal.fractionText, if_neg hne, Literal.exponentText,
      List.append_nil]
    rfl

/-- **A whole number**: zeros up to the point, and one behind it. -/
theorem exists_literal_of_nonneg {d : Nat} (hd : d ≠ 0) {p : Int} (hp : 0 ≤ p) :
    ∃ t : Literal, IsLiteralOf t d p ∧
      Text.ofNat d ++ List.replicate p.toNat '0' ++ ['.', '0'] = t.text := by
  have hdigits := Text.allDigits_ofNat d
  have hvalue : valueOf (Text.ofNat d ++ List.replicate p.toNat '0' ++ ['0']) =
      d * 10 ^ (p.toNat + 1) := by
    rw [List.append_assoc, ← List.replicate_succ',
      Numeral.valueOf_append hdigits (Text.allDigits_replicate _), Numeral.valueOf_ofNat,
      Numeral.valueOf_replicate, List.length_replicate, Nat.add_zero]
  have hcast : ((d * 10 ^ (p.toNat + 1) : Nat) : ℚ) = d * 10 ^ (p + 1) := by
    rw [← Int.toNat_of_nonneg hp]
    push_cast
    rfl
  refine ⟨⟨Text.ofNat d ++ List.replicate p.toNat '0', ['0'], none⟩,
    ⟨⟨?_, Text.allDigits_replicate 1, forall_mem_none, front_ofNat hd _⟩,
      Or.inl (List.cons_ne_nil _ _), ?_⟩, ?_⟩
  · exact Text.allDigits_append.mpr ⟨hdigits, Text.allDigits_replicate _⟩
  · simp only [Literal.digits, Literal.power, hvalue, hcast, List.length_singleton]
    rw [mul_assoc, ← zpow_add₀ (by norm_num)]
    congr 2
    omega
  · simp only [Literal.text, Literal.fractionText, Literal.exponentText, List.append_nil]
    rfl

/-- **In between**: the point among the digits. -/
theorem exists_literal_of_between {d : Nat} (hd : d ≠ 0) {p top : Int}
    (htop : p + (Text.ofNat d).length - 1 = top) (hnonneg : ¬ top < 0) (hp : ¬ 0 ≤ p) :
    ∃ t : Literal, IsLiteralOf t d p ∧
      (Text.ofNat d).take (top + 1).toNat ++ '.' :: (Text.ofNat d).drop (top + 1).toNat =
        t.text := by
  have hdigits := Text.allDigits_ofNat d
  have hne : (Text.ofNat d).drop (top + 1).toNat ≠ [] := by
    rw [Ne, List.drop_eq_nil_iff]
    omega
  have hpower : (0 : Int) - (((Text.ofNat d).drop (top + 1).toNat).length : Nat) = p := by
    rw [List.length_drop]
    omega
  refine ⟨⟨(Text.ofNat d).take (top + 1).toNat, (Text.ofNat d).drop (top + 1).toNat, none⟩,
    ⟨⟨hdigits.take _, hdigits.drop _, forall_mem_none, front_take hd (by omega)⟩, Or.inl hne, ?_⟩,
    ?_⟩
  · simp only [Literal.digits, Literal.power, List.take_append_drop, Numeral.valueOf_ofNat, hpower]
  · simp only [Literal.text, Literal.fractionText, if_neg hne, Literal.exponentText,
      List.append_nil]

/-- **With an exponent**: one digit in front. -/
theorem exists_literal_of_exponent (width : Nat) {d : Nat} (hd : d ≠ 0) {p top : Int}
    (htop : p + (Text.ofNat d).length - 1 = top) :
    ∃ t : Literal, IsLiteralOf t d p ∧
      (Text.ofNat d).take 1
        ++ (if ((Text.ofNat d).drop 1).isEmpty then [] else '.' :: (Text.ofNat d).drop 1)
        ++ ['e', if top < 0 then '-' else '+']
        ++ Text.padLeft width (Text.ofNat top.natAbs) = t.text := by
  have hdigits := Text.allDigits_ofNat d
  have hlength := Text.length_ofNat_pos d
  have hpad : (Text.padLeft width (Text.ofNat top.natAbs)).AllDigits :=
    Text.allDigits_append.mpr ⟨Text.allDigits_replicate _, Text.allDigits_ofNat _⟩
  have hpadne : Text.padLeft width (Text.ofNat top.natAbs) ≠ [] :=
    List.append_ne_nil_of_right_ne_nil _ (List.ne_nil_of_length_pos (Text.length_ofNat_pos _))
  have hexponent : Numeral.signed (decide (top < 0))
      (valueOf (Text.padLeft width (Text.ofNat top.natAbs))) = top := by
    rw [Text.padLeft, Numeral.valueOf_replicate_append _ (Text.allDigits_ofNat _),
      Numeral.valueOf_ofNat, Numeral.signed]
    by_cases hneg : top < 0
    · rw [if_pos (decide_eq_true hneg)]
      omega
    · rw [if_neg (by simpa using hneg)]
      omega
  have hpower : top - (((Text.ofNat d).drop 1).length : Nat) = p := by
    rw [List.length_drop]
    omega
  refine ⟨⟨(Text.ofNat d).take 1, (Text.ofNat d).drop 1,
    some (decide (top < 0), Text.padLeft width (Text.ofNat top.natAbs))⟩,
    ⟨⟨hdigits.take _, hdigits.drop _, ?_, front_take hd (by decide)⟩, Or.inr (by simp), ?_⟩, ?_⟩
  · intro q hq
    cases hq
    exact ⟨hpad, hpadne⟩
  · simp only [Literal.digits, Literal.power, List.take_append_drop, Numeral.valueOf_ofNat,
      hexponent, hpower]
  · simp [Literal.text, Literal.fractionText, Literal.exponentText]

/-- **What a layout writes** is a numeral of the decimal. -/
theorem exists_literal (l : Layout) {d : Nat} (hd : d ≠ 0) (p : Int) :
    ∃ t : Literal, IsLiteralOf t d p ∧ l.write d p = t.text := by
  obtain ⟨top, htop⟩ : ∃ top, p + (Text.ofNat d).length - 1 = top := ⟨_, rfl⟩
  simp only [write, htop, if_neg hd]
  by_cases hpositional : l.positionalFrom ≤ top ∧ top ≤ l.positionalTo
  · rw [if_pos hpositional]
    by_cases hneg : top < 0
    · rw [if_pos hneg]
      exact exists_literal_of_neg htop hneg
    · rw [if_neg hneg]
      by_cases hp : 0 ≤ p
      · rw [if_pos hp]
        exact exists_literal_of_nonneg hd hp
      · rw [if_neg hp]
        exact exists_literal_of_between hd htop hneg hp
  · rw [if_neg hpositional]
    exact exists_literal_of_exponent l.exponentWidth hd htop

/-- **A finite number that is written is read back**: its text is a numeral that is read as it. -/
theorem exists_literal_writeFinite (l : Layout) (negative : Bool) {m : Nat} {e : Int}
    (hc : Binary64.Canonical m e) :
    ∃ t : Literal, t.WellFormed ∧ t.IsBinary ∧
      l.writeFinite negative m e = (if negative then ['-'] else []) ++ t.text ∧
      Binary64.ofDecimal negative t.digits t.power = .finite negative m e := by
  by_cases hm : m = 0
  · -- zero has the least exponent
    have he : e = Binary64.minExponent := hc.normal.resolve_left (by omega)
    subst hm he
    exact ⟨⟨['0'], ['0'], none⟩,
      ⟨Text.allDigits_replicate 1, Text.allDigits_replicate 1, forall_mem_none, Or.inl rfl⟩,
      Or.inl (List.cons_ne_nil _ _), rfl, rfl⟩
  · have hrounds := Binary64.roundsTo_shortest hc hm
    have hd : (Binary64.shortest m e).1 ≠ 0 := by
      intro hzero
      have hpos := hrounds.pos hm
      rw [hzero, Nat.cast_zero, zero_mul] at hpos
      exact absurd hpos (not_le.mpr (by positivity))
    obtain ⟨t, ⟨hwell, hbinary, hvalue⟩, htext⟩ :=
      l.exists_literal hd (Binary64.shortest m e).2
    refine ⟨t, hwell, hbinary, ?_, ?_⟩
    · rw [writeFinite]
      exact congrArg _ htext
    · rw [← hvalue] at hrounds
      exact Binary64.ofDecimal_eq_of_roundsTo hc hm hrounds negative

/-- **A finite number that is written** is spelled. -/
theorem spellsNumber_writeFinite (l : Layout) (fits : Nat → Prop) (negative : Bool) {m : Nat}
    {e : Int} (hc : Binary64.Canonical m e) :
    Json.SpellsNumber fits (l.writeFinite negative m e) (.float (.finite negative m e)) := by
  obtain ⟨t, hwell, hbinary, htext, hvalue⟩ := l.exists_literal_writeFinite negative hc
  have hspells := hwell.spellsNumber hbinary fits negative
  rw [hvalue] at hspells
  rw [htext]
  exact hspells

end Layout

end Roleplay
