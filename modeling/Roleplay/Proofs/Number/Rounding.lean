import Mathlib.Algebra.Order.Field.Power
import Mathlib.Tactic.FieldSimp
import Mathlib.Tactic.Linarith
import Mathlib.Tactic.Positivity
import Mathlib.Tactic.Ring
import Roleplay.Number.Binary64

/-!
# Rounding fractions

The fractions that are rounded to a number make up an interval around it: half a step to either
side, only a quarter below a power of two, where the numbers lie closer; the ends belong to it when
the mantissa is even.

## Main definitions

* `Binary64.Canonical`: the mantissas and exponents of finite numbers
* `Binary64.value?`: the value of a finite number
* `Binary64.RoundsTo`: the interval of a number

## Main results

* `Binary64.within_iff`: lying between two whole numbers is said of the value
* `Binary64.scale_spec`, `Binary64.log2Fraction_spec`, `Binary64.roundDiv_eq`: the steps of rounding
* `Binary64.ofFraction_eq_of_roundsTo`: fractions in the interval of a number are rounded to it
* `Binary64.canonical_ofFraction`: rounding gives canonical numbers
-/

namespace Roleplay.Binary64

/-! ## Canonical numbers -/

/-- **The mantissas and exponents of finite numbers**: the mantissa has fifty-three binary places,
and uses them all unless the exponent is the least. -/
structure Canonical (m : Nat) (e : Int) : Prop where
  lt_pow : m < 2 ^ 53
  min_le : minExponent ≤ e
  le_max : e ≤ maxExponent
  normal : 2 ^ 52 ≤ m ∨ e = minExponent

/-- Numbers of which the finite ones are canonical. -/
def IsCanonical : Binary64 → Prop
  | finite _ m e => Canonical m e
  | _ => True

theorem canonical_zero (negative : Bool) : (zero negative).IsCanonical :=
  ⟨by decide, Int.le_refl _, by decide, Or.inr rfl⟩

/-! ## Scaling -/

/-- **Scaling** multiplies a fraction by a power of two. -/
theorem scale_spec (n : Nat) {d : Nat} (hd : 0 < d) (k : Int) :
    0 < (scale n d k).2 ∧ ((scale n d k).1 : ℚ) / (scale n d k).2 = n / d * 2 ^ k := by
  rw [scale]
  by_cases hk : 0 ≤ k
  · rw [if_pos hk]
    refine ⟨hd, ?_⟩
    have hpow : ((2 : ℚ) ^ k) = 2 ^ k.toNat := by
      rw [← zpow_natCast, Int.toNat_of_nonneg hk]
    show ((n * 2 ^ k.toNat : Nat) : ℚ) / d = _
    rw [hpow]
    push_cast
    ring
  · rw [if_neg hk]
    refine ⟨Nat.mul_pos hd (Nat.pow_pos (by decide)), ?_⟩
    have hpow : ((2 : ℚ) ^ k) = (2 ^ (-k).toNat)⁻¹ := by
      rw [← zpow_natCast, Int.toNat_of_nonneg (by omega), zpow_neg, inv_inv]
    show (n : ℚ) / ((d * 2 ^ (-k).toNat : Nat) : ℚ) = _
    rw [hpow]
    push_cast
    field_simp

/-- **The value of a number** that is finite. -/
def value? : Binary64 → Option ℚ
  | finite negative m e => some ((if negative then -1 else 1) * (m * 2 ^ e))
  | _ => none

/-- **Lying between two whole numbers** is said of the value. -/
theorem within_iff {low high : Int} {x : Binary64} :
    x.within low high = true ↔ ∃ v, x.value? = some v ∧ (low : ℚ) ≤ v ∧ v ≤ high := by
  cases x with
  | finite negative m e =>
    obtain ⟨hpos, hscale⟩ := scale_spec m Nat.one_pos e
    have hpos' : (0 : ℚ) < (scale m 1 e).2 := Nat.cast_pos.mpr hpos
    -- the two comparisons are those of fractions over one denominator
    have hvalue : ((if negative then -1 else 1) * (m * 2 ^ e) : ℚ) =
        ((if negative then -((scale m 1 e).1 : Int) else ((scale m 1 e).1 : Int) : Int) : ℚ) /
          (scale m 1 e).2 := by
      have hm : (m : ℚ) * 2 ^ e = (scale m 1 e).1 / (scale m 1 e).2 := by
        rw [hscale, Nat.cast_one, div_one]
      rw [hm]
      cases negative <;> simp [neg_div]
    simp only [within, value?, Bool.and_eq_true, decide_eq_true_eq, Option.some.injEq,
      exists_eq_left', hvalue, le_div_iff₀ hpos', div_le_iff₀ hpos']
    norm_cast
  | nan => simp [within, value?]
  | infinity negative => simp [within, value?]

/-- **The leading binary place** of a fraction. -/
theorem log2Fraction_spec {n d : Nat} (hn : 0 < n) (hd : 0 < d) :
    (2 : ℚ) ^ log2Fraction n d ≤ n / d ∧ (n : ℚ) / d < 2 ^ (log2Fraction n d + 1) := by
  have hd' : (0 : ℚ) < d := Nat.cast_pos.mpr hd
  -- the leading places of the two numbers bound that of the quotient
  have hn₁ : (2 : ℚ) ^ (n.log2 : Int) ≤ n := by
    rw [zpow_natCast]
    exact_mod_cast Nat.log2_self_le hn.ne'
  have hn₂ : (n : ℚ) < 2 ^ ((n.log2 : Int) + 1) := by
    exact_mod_cast Nat.lt_log2_self
  have hd₁ : (2 : ℚ) ^ (d.log2 : Int) ≤ d := by
    rw [zpow_natCast]
    exact_mod_cast Nat.log2_self_le hd.ne'
  have hd₂ : (d : ℚ) < 2 ^ ((d.log2 : Int) + 1) := by
    exact_mod_cast Nat.lt_log2_self
  obtain ⟨hpos, hscale⟩ := scale_spec n hd (-((n.log2 : Int) - d.log2))
  have hpos' : (0 : ℚ) < (scale n d (-((n.log2 : Int) - d.log2))).2 := Nat.cast_pos.mpr hpos
  have htest : (scale n d (-((n.log2 : Int) - d.log2))).2 ≤
      (scale n d (-((n.log2 : Int) - d.log2))).1 ↔
      (2 : ℚ) ^ ((n.log2 : Int) - d.log2) ≤ n / d := by
    rw [← Nat.cast_le (α := ℚ), ← one_le_div hpos', hscale, zpow_neg, ← div_eq_mul_inv,
      one_le_div (by positivity)]
  simp only [log2Fraction]
  by_cases hle : (2 : ℚ) ^ ((n.log2 : Int) - d.log2) ≤ n / d
  · rw [if_pos (htest.mpr hle)]
    refine ⟨hle, ?_⟩
    rw [div_lt_iff₀ hd']
    calc (n : ℚ) < 2 ^ ((n.log2 : Int) + 1) := hn₂
      _ = 2 ^ ((n.log2 : Int) - d.log2 + 1) * 2 ^ (d.log2 : Int) := by
        rw [← zpow_add₀ (by norm_num)]
        congr 1
        ring
      _ ≤ 2 ^ ((n.log2 : Int) - d.log2 + 1) * d := by gcongr
  · rw [if_neg (mt htest.mp hle), sub_add_cancel]
    refine ⟨?_, lt_of_not_ge hle⟩
    rw [le_div_iff₀ hd']
    calc (2 : ℚ) ^ ((n.log2 : Int) - d.log2 - 1) * d
        ≤ 2 ^ ((n.log2 : Int) - d.log2 - 1) * 2 ^ ((d.log2 : Int) + 1) := by gcongr
      _ = 2 ^ (n.log2 : Int) := by
        rw [← zpow_add₀ (by norm_num)]
        congr 1
        ring
      _ ≤ n := hn₁

/-! ## Rounding to whole numbers -/

/-- Rounding to a whole number in terms of the division: at most half a step away, and that far only
when it is even. -/
theorem roundDiv_eq_of_le {n d m : Nat} (hd : 0 < d) (hlow : 2 * (m * d) ≤ 2 * n + d)
    (hhigh : 2 * n ≤ 2 * (m * d) + d)
    (htie : 2 * n + d = 2 * (m * d) ∨ 2 * n = 2 * (m * d) + d → m % 2 = 0) :
    roundDiv n d = m := by
  have hn : n = d * (n / d) + n % d := (Nat.div_add_mod n d).symm
  have hr : n % d < d := Nat.mod_lt n hd
  -- the quotient is the number, or one below it
  have hq : n / d = m ∨ n / d + 1 = m := by
    by_contra hne
    rw [not_or] at hne
    rcases lt_or_gt_of_ne hne.1 with hlt | hgt
    · have hle : n / d + 2 ≤ m := by omega
      have hmul : (n / d + 2) * d ≤ m * d := Nat.mul_le_mul_right d hle
      rw [Nat.add_mul, Nat.mul_comm (n / d)] at hmul
      omega
    · have hmul : (m + 1) * d ≤ n / d * d := Nat.mul_le_mul_right d hgt
      rw [Nat.add_mul, Nat.mul_comm (n / d)] at hmul
      omega
  simp only [roundDiv]
  rcases hq with hq | hq
  · have hm : d * (n / d) = m * d := by rw [hq, Nat.mul_comm]
    by_cases hlt : 2 * (n % d) < d
    · rw [if_pos hlt, hq]
    · rw [if_neg hlt, if_neg (by omega), hq, htie (Or.inr (by omega))]
      rfl
  · have hm : d * (n / d) + d = m * d := by rw [← hq, Nat.add_mul, Nat.mul_comm d, Nat.one_mul]
    rw [if_neg (by omega)]
    by_cases hlt : d < 2 * (n % d)
    · rw [if_pos hlt, hq]
    · have heven := htie (Or.inl (by omega))
      rw [if_neg hlt]
      omega

/-- **Rounding to a whole number**: it is less than half a step away, or half a step when it is
even. -/
theorem roundDiv_eq {n d m : Nat} (hd : 0 < d)
    (h : ((m : ℚ) - 1 / 2 < n / d ∧ (n : ℚ) / d < m + 1 / 2) ∨
      (m % 2 = 0 ∧ (m : ℚ) - 1 / 2 ≤ n / d ∧ (n : ℚ) / d ≤ m + 1 / 2)) :
    roundDiv n d = m := by
  have hd' : (0 : ℚ) < d := Nat.cast_pos.mpr hd
  apply roundDiv_eq_of_le hd
  · have hle : (m : ℚ) - 1 / 2 ≤ n / d := h.elim (fun h => h.1.le) (fun h => h.2.1)
    rw [le_div_iff₀ hd'] at hle
    have hcast : ((2 * (m * d) : Nat) : ℚ) ≤ ((2 * n + d : Nat) : ℚ) := by
      push_cast
      linarith
    exact_mod_cast hcast
  · have hle : (n : ℚ) / d ≤ m + 1 / 2 := h.elim (fun h => h.2.le) (fun h => h.2.2)
    rw [div_le_iff₀ hd'] at hle
    have hcast : ((2 * n : Nat) : ℚ) ≤ ((2 * (m * d) + d : Nat) : ℚ) := by
      push_cast
      linarith
    exact_mod_cast hcast
  · intro htie
    rcases h with ⟨hl, hh⟩ | ⟨heven, -⟩
    · -- strictly between there is no tie
      exfalso
      rw [lt_div_iff₀ hd'] at hl
      rw [div_lt_iff₀ hd'] at hh
      rcases htie with htie | htie
      · have hcast : ((2 * n + d : Nat) : ℚ) = ((2 * (m * d) : Nat) : ℚ) := by rw [htie]
        push_cast at hcast
        linarith
      · have hcast : ((2 * n : Nat) : ℚ) = ((2 * (m * d) + d : Nat) : ℚ) := by rw [htie]
        push_cast at hcast
        linarith
    · exact heven

/-! ## Rounding to numbers -/

/-- How far the interval of a number reaches down, in steps. -/
def reach (m : Nat) (e : Int) : ℚ :=
  if m = 2 ^ 52 ∧ minExponent < e then 1 / 4 else 1 / 2

/-- **The interval of a number**, in which its ends lie when the mantissa is even. -/
def RoundsTo (x : ℚ) (m : Nat) (e : Int) : Prop :=
  ((m - reach m e) * 2 ^ e < x ∧ x < (m + 1 / 2) * 2 ^ e) ∨
    (m % 2 = 0 ∧ (m - reach m e) * 2 ^ e ≤ x ∧ x ≤ (m + 1 / 2) * 2 ^ e)

theorem RoundsTo.le {x : ℚ} {m : Nat} {e : Int} (h : RoundsTo x m e) :
    (m - reach m e) * 2 ^ e ≤ x ∧ x ≤ (m + 1 / 2) * 2 ^ e := by
  rcases h with h | h
  · exact ⟨h.1.le, h.2.le⟩
  · exact h.2

theorem reach_le (m : Nat) (e : Int) : reach m e ≤ 1 / 2 := by
  rw [reach]
  split <;> norm_num

/-- The fractions of a number are positive. -/
theorem RoundsTo.pos {x : ℚ} {m : Nat} {e : Int} (h : RoundsTo x m e) (hm : m ≠ 0) :
    2 ^ (e - 1) ≤ x := by
  have hm' : (1 : ℚ) ≤ m := by exact_mod_cast Nat.pos_of_ne_zero hm
  calc (2 : ℚ) ^ (e - 1) = 1 / 2 * 2 ^ e := by
        rw [zpow_sub₀ (by norm_num), zpow_one]
        ring
    _ ≤ (m - reach m e) * 2 ^ e := by
        have hreach := reach_le m e
        gcongr
        linarith
    _ ≤ x := h.le.1

/-- The leading place of a fraction lies below every place above it. -/
theorem log2Fraction_lt {n d : Nat} (hn : 0 < n) (hd : 0 < d) {k : Int}
    (h : (n : ℚ) / d < 2 ^ k) : log2Fraction n d < k :=
  (zpow_lt_zpow_iff_right₀ (by norm_num : (1 : ℚ) < 2)).mp
    ((log2Fraction_spec hn hd).1.trans_lt h)

theorem le_log2Fraction {n d : Nat} (hn : 0 < n) (hd : 0 < d) {k : Int}
    (h : (2 : ℚ) ^ k ≤ n / d) : k ≤ log2Fraction n d := by
  have hlt := (zpow_lt_zpow_iff_right₀ (by norm_num : (1 : ℚ) < 2)).mp
    (h.trans_lt (log2Fraction_spec hn hd).2)
  omega

/-- Rounding to a mantissa of fifty-three places. -/
theorem ofFraction_eq {negative : Bool} {n d m : Nat} {e : Int} (hn : n ≠ 0)
    (he : max (log2Fraction n d - 52) minExponent = e)
    (hm : roundDiv (scale n d (-e)).1 (scale n d (-e)).2 = m) :
    ofFraction negative n d =
      if m = 2 ^ 53 then
        if maxExponent < e + 1 then infinity negative else finite negative (2 ^ 52) (e + 1)
      else if maxExponent < e then infinity negative else finite negative m e := by
  rw [ofFraction, if_neg hn]
  by_cases hcarry : m = Nat.pow 2 53
  · simp only [he, hm, if_pos hcarry]
    exact (if_pos hcarry).symm
  · simp only [he, hm, if_neg hcarry]
    exact (if_neg hcarry).symm

theorem mul_zpow_neg_mul_zpow (x : ℚ) (e : Int) : x * 2 ^ (-e) * 2 ^ e = x := by
  rw [mul_assoc, ← zpow_add₀ (by norm_num), neg_add_cancel, zpow_zero, mul_one]

section Interval

variable {n d m : Nat} {e : Int}

/-- A fraction that is not below the powers of two of a number is rounded with its step. -/
theorem ofFraction_eq_of_step (hn : 0 < n) (hd : 0 < d) (hc : Canonical m e)
    (h : RoundsTo (n / d) m e) (htop : (n : ℚ) / d < 2 ^ (53 + e))
    (hexponent : e = minExponent ∨ (2 : ℚ) ^ (52 + e) ≤ n / d) (negative : Bool) :
    ofFraction negative n d = finite negative m e := by
  have hstep : (0 : ℚ) < 2 ^ e := by positivity
  have he : max (log2Fraction n d - 52) minExponent = e := by
    have hlt := log2Fraction_lt hn hd htop
    have hmin := hc.min_le
    rcases hexponent with he | hle
    · omega
    · have hge := le_log2Fraction hn hd hle
      omega
  obtain ⟨hpos, hscale⟩ := scale_spec n hd (-e)
  have hround : roundDiv (scale n d (-e)).1 (scale n d (-e)).2 = m := by
    apply roundDiv_eq hpos
    have hreach := reach_le m e
    rw [hscale]
    rw [RoundsTo, ← mul_zpow_neg_mul_zpow (n / d) e] at h
    simp only [mul_lt_mul_iff_left₀ hstep, mul_le_mul_iff_left₀ hstep] at h
    rcases h with ⟨hl, hh⟩ | ⟨heven, hl, hh⟩
    · exact Or.inl ⟨by linarith, hh⟩
    · exact Or.inr ⟨heven, by linarith, hh⟩
  have hm53 : m ≠ 2 ^ 53 := hc.lt_pow.ne
  rw [ofFraction_eq hn.ne' he hround, if_neg hm53, if_neg (not_lt.mpr hc.le_max)]

/-- Only the fractions of a power of two reach below it. -/
theorem RoundsTo.eq_pow (hc : Canonical m e) (h : RoundsTo (n / d) m e) (hmin : e ≠ minExponent)
    (hlt : (n : ℚ) / d < 2 ^ 52 * 2 ^ e) : m = 2 ^ 52 := by
  by_contra hne
  have hm52 : 2 ^ 52 ≤ m := hc.normal.resolve_right hmin
  have hm' : (2 : ℚ) ^ 52 + 1 ≤ m := by exact_mod_cast lt_of_le_of_ne hm52 (Ne.symm hne)
  have hreach := reach_le m e
  have hle : (2 : ℚ) ^ 52 * 2 ^ e ≤ (m - reach m e) * 2 ^ e := by
    gcongr
    linarith
  exact absurd (hle.trans h.le.1) (not_le.mpr hlt)

/-- Just below a power of two the step is half as wide, and the mantissa is carried. -/
theorem ofFraction_eq_of_carry (hn : 0 < n) (hd : 0 < d) (hc : Canonical m e)
    (h : RoundsTo (n / d) m e) (hmin : e ≠ minExponent) (hlt : (n : ℚ) / d < 2 ^ (52 + e))
    (negative : Bool) : ofFraction negative n d = finite negative m e := by
  have hstep : (0 : ℚ) < 2 ^ e := by positivity
  have hmin' : minExponent < e := lt_of_le_of_ne hc.min_le (Ne.symm hmin)
  have hmul : (n : ℚ) / d < 2 ^ 52 * 2 ^ e := by
    rw [zpow_add₀ (by norm_num)] at hlt
    exact hlt
  obtain rfl := h.eq_pow hc hmin hmul
  have hreach : reach (2 ^ 52) e = 1 / 4 := if_pos ⟨rfl, hmin'⟩
  have hlow := h.le.1
  rw [hreach] at hlow
  push_cast at hlow
  have he : max (log2Fraction n d - 52) minExponent = e - 1 := by
    have hlt' := log2Fraction_lt hn hd hlt
    have hge : 51 + e ≤ log2Fraction n d := by
      apply le_log2Fraction hn hd
      calc (2 : ℚ) ^ (51 + e) = 2 ^ 51 * 2 ^ e := by rw [zpow_add₀ (by norm_num)]; rfl
        _ ≤ (2 ^ 52 - 1 / 4) * 2 ^ e := by
          gcongr
          norm_num
        _ ≤ n / d := hlow
    omega
  obtain ⟨hpos, hscale⟩ := scale_spec n hd (-(e - 1))
  have hy : (n : ℚ) / d * 2 ^ (-(e - 1)) = n / d * 2 ^ (-e) * 2 := by
    rw [neg_sub, sub_eq_neg_add, zpow_add₀ (by norm_num), zpow_one, mul_assoc]
  rw [← mul_zpow_neg_mul_zpow (n / d) e, mul_le_mul_iff_left₀ hstep] at hlow
  rw [← mul_zpow_neg_mul_zpow (n / d) e, mul_lt_mul_iff_left₀ hstep] at hmul
  have hround : roundDiv (scale n d (-(e - 1))).1 (scale n d (-(e - 1))).2 = 2 ^ 53 := by
    apply roundDiv_eq hpos
    rw [hscale, hy]
    refine Or.inr ⟨by decide, ?_, ?_⟩
    · push_cast
      linarith
    · push_cast
      linarith
  rw [ofFraction_eq hn.ne' he hround, if_pos rfl, sub_add_cancel, if_neg (not_lt.mpr hc.le_max)]

/-- **Fractions in the interval of a number are rounded to it.** -/
theorem ofFraction_eq_of_roundsTo (hd : 0 < d) (hc : Canonical m e) (hm : m ≠ 0)
    (h : RoundsTo (n / d) m e) (negative : Bool) :
    ofFraction negative n d = finite negative m e := by
  have hx : (0 : ℚ) < n / d := lt_of_lt_of_le (by positivity) (h.pos hm)
  have hn : 0 < n := by
    rw [Nat.pos_iff_ne_zero]
    rintro rfl
    simp at hx
  by_cases hexponent : e = minExponent ∨ (2 : ℚ) ^ (52 + e) ≤ n / d
  · have htop : (n : ℚ) / d < 2 ^ (53 + e) := by
      have hm53 : (m : ℚ) + 1 ≤ 2 ^ 53 := by exact_mod_cast hc.lt_pow
      calc (n : ℚ) / d ≤ (m + 1 / 2) * 2 ^ e := h.le.2
        _ < 2 ^ 53 * 2 ^ e := by
          apply mul_lt_mul_of_pos_right _ (by positivity)
          linarith
        _ = 2 ^ (53 + e) := by rw [zpow_add₀ (by norm_num)]; rfl
    exact ofFraction_eq_of_step hn hd hc h htop hexponent negative
  · rw [not_or, not_le] at hexponent
    exact ofFraction_eq_of_carry hn hd hc h hexponent.1 hexponent.2 negative

end Interval

/-- The quotient that is rounded has at most fifty-three places, and as many unless the step is the
least. -/
theorem quotient_bounds {n d : Nat} (hn : 0 < n) (hd : 0 < d) {e : Int}
    (he : max (log2Fraction n d - 52) minExponent = e) :
    (scale n d (-e)).1 / (scale n d (-e)).2 < 2 ^ 53 ∧
      (e ≠ minExponent → 2 ^ 52 ≤ (scale n d (-e)).1 / (scale n d (-e)).2) := by
  obtain ⟨hpos, hscale⟩ := scale_spec n hd (-e)
  have hpos' : (0 : ℚ) < (scale n d (-e)).2 := Nat.cast_pos.mpr hpos
  obtain ⟨hlow, hhigh⟩ := log2Fraction_spec hn hd
  constructor
  · rw [Nat.div_lt_iff_lt_mul hpos]
    have hq : ((scale n d (-e)).1 : ℚ) / (scale n d (-e)).2 < 2 ^ 53 := by
      rw [hscale]
      calc (n : ℚ) / d * 2 ^ (-e) < 2 ^ (log2Fraction n d + 1) * 2 ^ (-e) := by gcongr
        _ = 2 ^ (log2Fraction n d + 1 - e) := by rw [← zpow_add₀ (by norm_num)]; rfl
        _ ≤ 2 ^ (53 : Int) := zpow_le_zpow_right₀ (by norm_num) (by omega)
        _ = 2 ^ 53 := by norm_num
    rw [div_lt_iff₀ hpos'] at hq
    exact_mod_cast hq
  · intro hne
    rw [Nat.le_div_iff_mul_le hpos]
    have hq : (2 : ℚ) ^ 52 ≤ ((scale n d (-e)).1 : ℚ) / (scale n d (-e)).2 := by
      rw [hscale]
      calc (2 : ℚ) ^ 52 = 2 ^ (52 : Int) := by norm_num
        _ ≤ 2 ^ (log2Fraction n d - e) := zpow_le_zpow_right₀ (by norm_num) (by omega)
        _ = 2 ^ log2Fraction n d * 2 ^ (-e) := by rw [← zpow_add₀ (by norm_num)]; rfl
        _ ≤ n / d * 2 ^ (-e) := by gcongr
    rw [le_div_iff₀ hpos'] at hq
    exact_mod_cast hq

/-- Rounding takes the quotient or the number after it. -/
theorem roundDiv_bounds (n d : Nat) : n / d ≤ roundDiv n d ∧ roundDiv n d ≤ n / d + 1 := by
  rw [roundDiv]
  split
  · omega
  · split <;> omega

/-- **Rounding gives canonical numbers.** -/
theorem canonical_ofFraction (negative : Bool) (n : Nat) {d : Nat} (hd : 0 < d) :
    (ofFraction negative n d).IsCanonical := by
  by_cases hn : n = 0
  · rw [ofFraction, if_pos hn]
    exact canonical_zero negative
  obtain ⟨e, he⟩ : ∃ e, max (log2Fraction n d - 52) minExponent = e := ⟨_, rfl⟩
  obtain ⟨m, hm⟩ : ∃ m, roundDiv (scale n d (-e)).1 (scale n d (-e)).2 = m := ⟨_, rfl⟩
  have hmin : minExponent ≤ e := he ▸ le_max_right _ _
  obtain ⟨hlt, hge⟩ := quotient_bounds (Nat.pos_of_ne_zero hn) hd he
  have hround := roundDiv_bounds (scale n d (-e)).1 (scale n d (-e)).2
  rw [hm] at hround
  rw [ofFraction_eq hn he hm]
  by_cases hcarry : m = 2 ^ 53
  · rw [if_pos hcarry]
    split
    · trivial
    · next hmax => exact ⟨by decide, by omega, not_lt.mp hmax, Or.inl (le_refl _)⟩
  · rw [if_neg hcarry]
    split
    · trivial
    · next hmax =>
      refine ⟨by omega, hmin, not_lt.mp hmax, ?_⟩
      by_cases hne : e = minExponent
      · exact Or.inr hne
      · exact Or.inl ((hge hne).trans hround.1)

theorem canonical_ofDecimal (negative : Bool) (digits : Nat) (exponent : Int) :
    (ofDecimal negative digits exponent).IsCanonical := by
  rw [ofDecimal]
  split
  · exact canonical_zero negative
  · split
    · trivial
    · split
      · exact canonical_ofFraction _ _ (by decide)
      · exact canonical_ofFraction _ _ (Nat.pow_pos (by decide))

end Roleplay.Binary64
