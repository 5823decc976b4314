import Roleplay.Number.Shortest
import Roleplay.Proofs.Number.Digits
import Roleplay.Proofs.Number.Rounding

/-!
# The shortest decimal reads back

The search for the shortest decimal never ends without a hit: where a grid of decimals is finer than
the interval of a number, one of the two decimals next to the number lies in it, and the last grid
tried is that fine. So the decimal that is found lies in the interval, and is read as the number.

## Main results

* `ReadingInterval.contains_iff`: the interval of the search is the interval of rounding
* `ReadingInterval.pow_magnitude_le`: the leading digit of a number
* `Binary64.roundsTo_shortest`: the shortest decimal lies in the interval of its number
* `Binary64.ofDecimal_eq_of_roundsTo`: decimals in the interval of a number are read as it
-/

namespace Roleplay

open Binary64 (Canonical RoundsTo reach)

namespace ReadingInterval

/-! ## The interval -/

/-- The interval of a number over a power of ten, as fractions. -/
structure Spans (i : ReadingInterval) (m : Nat) (e p : Int) : Prop where
  pos : 0 < i.denominator
  low : (i.low : ℚ) / i.denominator = (m - reach m e) * 2 ^ e / 10 ^ p
  value : (i.value : ℚ) / i.denominator = m * 2 ^ e / 10 ^ p
  high : (i.high : ℚ) / i.denominator = (m + 1 / 2) * 2 ^ e / 10 ^ p
  closed : i.closed = decide (m % 2 = 0)

theorem spans_ofMantissa {m : Nat} (hm : m ≠ 0) (e : Int) : (ofMantissa m e).Spans m e 0 := by
  obtain ⟨hpos, hscale⟩ := Binary64.scale_spec 1 (Nat.one_pos) (e - 2)
  have hunit : ((Binary64.scale 1 1 (e - 2)).1 : ℚ) / (Binary64.scale 1 1 (e - 2)).2 =
      2 ^ e / 4 := by
    rw [hscale, zpow_sub₀ (by norm_num)]
    norm_num
  refine ⟨hpos, ?_, ?_, ?_, rfl⟩
  · -- a quarter of a step is the unit
    have hbelow : (((4 * m - (if m = Nat.pow 2 52 && Binary64.minExponent < e then 1 else 2)) *
        (Binary64.scale 1 1 (e - 2)).1 : Nat) : ℚ) =
        (4 * m - 4 * reach m e) * (Binary64.scale 1 1 (e - 2)).1 := by
      rw [Nat.cast_mul, reach]
      congr 1
      by_cases hpow : m = 2 ^ 52 ∧ Binary64.minExponent < e
      · rw [if_pos hpow, if_pos (by simpa using hpow), Nat.cast_sub (by omega)]
        push_cast
        norm_num
      · rw [if_neg hpow, if_neg (by simpa using hpow), Nat.cast_sub (by omega)]
        push_cast
        norm_num
    show (((4 * m - (if m = Nat.pow 2 52 && Binary64.minExponent < e then 1 else 2)) *
        (Binary64.scale 1 1 (e - 2)).1 : Nat) : ℚ) / (Binary64.scale 1 1 (e - 2)).2 = _
    rw [hbelow, mul_div_assoc, hunit]
    ring
  · show ((4 * m * (Binary64.scale 1 1 (e - 2)).1 : Nat) : ℚ) / (Binary64.scale 1 1 (e - 2)).2 = _
    push_cast
    rw [mul_div_assoc, hunit]
    ring
  · show (((4 * m + 2) * (Binary64.scale 1 1 (e - 2)).1 : Nat) : ℚ) /
      (Binary64.scale 1 1 (e - 2)).2 = _
    push_cast
    rw [mul_div_assoc, hunit]
    ring

theorem Spans.shift {i : ReadingInterval} {m : Nat} {e : Int} (h : i.Spans m e 0) (p : Int) :
    (i.shift p).Spans m e p := by
  obtain ⟨hpos, hlow, hvalue, hhigh, hclosed⟩ := h
  simp only [zpow_zero, div_one] at hlow hvalue hhigh
  rw [ReadingInterval.shift]
  by_cases hp : 0 ≤ p
  · have hpow : ((10 : ℚ) ^ p) = 10 ^ p.toNat := by
      rw [← zpow_natCast, Int.toNat_of_nonneg hp]
    have hdiv : ∀ a : Nat, (a : ℚ) / ((i.denominator * 10 ^ p.toNat : Nat) : ℚ) =
        a / i.denominator / 10 ^ p := by
      intro a
      rw [hpow, div_div]
      push_cast
      rfl
    rw [if_pos hp]
    refine ⟨Nat.mul_pos hpos (Nat.pow_pos (by decide)), ?_, ?_, ?_, hclosed⟩
    · rw [← hlow]
      exact hdiv i.low
    · rw [← hvalue]
      exact hdiv i.value
    · rw [← hhigh]
      exact hdiv i.high
  · have hpow : ((10 : ℚ) ^ p) = (10 ^ (-p).toNat)⁻¹ := by
      rw [← zpow_natCast, Int.toNat_of_nonneg (by omega), zpow_neg, inv_inv]
    have hdiv : ∀ a : Nat, ((a * 10 ^ (-p).toNat : Nat) : ℚ) / i.denominator =
        a / i.denominator / 10 ^ p := by
      intro a
      rw [hpow, div_inv_eq_mul, div_mul_eq_mul_div]
      push_cast
      rfl
    rw [if_neg hp]
    refine ⟨hpos, ?_, ?_, ?_, hclosed⟩
    · rw [← hlow]
      exact hdiv i.low
    · rw [← hvalue]
      exact hdiv i.value
    · rw [← hhigh]
      exact hdiv i.high

/-- **The interval of the search** is the interval of rounding. -/
theorem Spans.contains_iff {i : ReadingInterval} {m : Nat} {e p : Int} (h : i.Spans m e p)
    (d : Nat) : i.contains d = true ↔ RoundsTo (d * 10 ^ p) m e := by
  have hpos : (0 : ℚ) < i.denominator := Nat.cast_pos.mpr h.pos
  have hten : (0 : ℚ) < 10 ^ p := by positivity
  have hlow : i.low ≤ d * i.denominator ↔ (m - reach m e) * 2 ^ e ≤ d * (10 : ℚ) ^ p := by
    rw [← div_le_iff₀ hten, ← h.low, div_le_iff₀ hpos]
    exact_mod_cast Iff.rfl
  have hhigh : d * i.denominator ≤ i.high ↔ d * (10 : ℚ) ^ p ≤ (m + 1 / 2) * 2 ^ e := by
    rw [← le_div_iff₀ hten, ← h.high, le_div_iff₀ hpos]
    exact_mod_cast Iff.rfl
  have hlow' : i.low < d * i.denominator ↔ (m - reach m e) * 2 ^ e < d * (10 : ℚ) ^ p := by
    rw [← div_lt_iff₀ hten, ← h.low, div_lt_iff₀ hpos]
    exact_mod_cast Iff.rfl
  have hhigh' : d * i.denominator < i.high ↔ d * (10 : ℚ) ^ p < (m + 1 / 2) * 2 ^ e := by
    rw [← lt_div_iff₀ hten, ← h.high, lt_div_iff₀ hpos]
    exact_mod_cast Iff.rfl
  rw [contains, h.closed, RoundsTo]
  by_cases heven : m % 2 = 0
  · simp only [heven, decide_true, if_true, Bool.and_eq_true, decide_eq_true_eq, hlow, hhigh,
      true_and]
    constructor
    · exact Or.inr
    · rintro (h | h)
      · exact ⟨h.1.le, h.2.le⟩
      · exact h
  · simp only [heven, decide_false, Bool.false_eq_true, if_false, Bool.and_eq_true,
      decide_eq_true_eq, hlow', hhigh', false_and, or_false]

/-- The whole number that is found lies in the interval. -/
theorem contains_of_nearest?_eq_some {i : ReadingInterval} {d : Nat} (h : i.nearest? = some d) :
    i.contains d = true := by
  simp only [nearest?] at h
  split at h
  · next hd _ =>
    cases h
    exact hd
  · next _ hd =>
    cases h
    exact hd
  · next hd hd' =>
    -- rounding gives one of the two
    have hround : Binary64.roundDiv i.value i.denominator = i.value / i.denominator ∨
        Binary64.roundDiv i.value i.denominator = i.value / i.denominator + 1 := by
      have hbounds := Binary64.roundDiv_bounds i.value i.denominator
      omega
    cases h
    rcases hround with hround | hround
    · rw [hround]
      exact hd
    · rw [hround]
      exact hd'
  · cases h

/-- **An interval wider than one** has a whole number next to the value in it. -/
theorem nearest?_ne_none {i : ReadingInterval} {m : Nat} {e p : Int} (h : i.Spans m e p)
    (hwide : (10 : ℚ) ^ p < (1 / 2 + reach m e) * 2 ^ e) : i.nearest? ≠ none := by
  intro hnone
  have hpos : (0 : ℚ) < i.denominator := Nat.cast_pos.mpr h.pos
  have hten : (0 : ℚ) < 10 ^ p := by positivity
  have hstep : (0 : ℚ) < 2 ^ e := by positivity
  have hmiss : i.contains (i.value / i.denominator) = false ∧
      i.contains (i.value / i.denominator + 1) = false := by
    simp only [nearest?] at hnone
    split at hnone
    · cases hnone
    · cases hnone
    · cases hnone
    · next hd hd' => exact ⟨hd, hd'⟩
  -- the value lies between the two whole numbers
  have hfloor : ((i.value / i.denominator : Nat) : ℚ) * 10 ^ p ≤ m * 2 ^ e := by
    rw [← le_div_iff₀ hten, ← h.value, le_div_iff₀ hpos]
    exact_mod_cast Nat.div_mul_le_self i.value i.denominator
  have hceil : (m : ℚ) * 2 ^ e < ((i.value / i.denominator + 1 : Nat) : ℚ) * 10 ^ p := by
    rw [← div_lt_iff₀ hten, ← h.value, div_lt_iff₀ hpos]
    exact_mod_cast Nat.lt_mul_of_div_lt (Nat.lt_succ_self _) h.pos
  have hreach : 0 < reach m e := by
    rw [reach]
    split <;> norm_num
  have hbelow : ((i.value / i.denominator : Nat) : ℚ) * 10 ^ p ≤ (m - reach m e) * 2 ^ e := by
    by_contra hlt
    rw [not_le] at hlt
    have hin : RoundsTo (((i.value / i.denominator : Nat) : ℚ) * 10 ^ p) m e :=
      Or.inl ⟨hlt, by linarith⟩
    rw [← h.contains_iff, hmiss.1] at hin
    cases hin
  have habove : (m + 1 / 2) * 2 ^ e ≤ ((i.value / i.denominator + 1 : Nat) : ℚ) * 10 ^ p := by
    by_contra hlt
    rw [not_le] at hlt
    have hin : RoundsTo (((i.value / i.denominator + 1 : Nat) : ℚ) * 10 ^ p) m e := by
      refine Or.inl ⟨?_, hlt⟩
      have hmul : 0 < reach m e * 2 ^ e := by positivity
      linarith
    rw [← h.contains_iff, hmiss.2] at hin
    cases hin
  push_cast at habove
  linarith

/-! ## The leading digit -/

/-- Powers of ten below powers of two, by an estimate of the logarithm from below. -/
theorem pow_ten_le_pow_two {g k : Int} (hg : g * 4096 ≤ k * 1233) (hk : -4096 ≤ k) :
    (10 : ℚ) ^ (g - 1) ≤ 2 ^ k := by
  have hroot : ((10 : ℚ) ^ (g - 1)) ^ 4096 ≤ (2 ^ k) ^ 4096 := by
    rw [← zpow_natCast, ← zpow_natCast, ← zpow_mul, ← zpow_mul]
    by_cases hpos : 0 ≤ k
    · have hbase : ((10 : ℚ) ^ 1233) ≤ 2 ^ 4096 := by
        exact_mod_cast (by decide +kernel : (10 : Nat) ^ 1233 ≤ 2 ^ 4096)
      calc (10 : ℚ) ^ ((g - 1) * (4096 : Nat)) ≤ 10 ^ (1233 * k) :=
            zpow_le_zpow_right₀ (by norm_num) (by omega)
        _ = (10 ^ 1233) ^ k := by rw [zpow_mul]; rfl
        _ ≤ (2 ^ 4096) ^ k := zpow_le_zpow_left₀ hpos (by positivity) hbase
        _ = 2 ^ (k * (4096 : Nat)) := by rw [mul_comm, zpow_mul]; rfl
    · -- the error of the estimate is less than one for places that are not too low
      have hbase : ((2 : ℚ) ^ 4096) ≤ 10 ^ 1234 := by
        exact_mod_cast (by decide +kernel : (2 : Nat) ^ 4096 ≤ 10 ^ 1234)
      calc (10 : ℚ) ^ ((g - 1) * (4096 : Nat)) ≤ 10 ^ (1234 * k) :=
            zpow_le_zpow_right₀ (by norm_num) (by omega)
        _ = (10 ^ 1234) ^ k := by rw [zpow_mul]; rfl
        _ ≤ (2 ^ 4096) ^ k := by
          have hneg : 0 ≤ -k := by omega
          rw [← neg_neg k, zpow_neg (10 ^ 1234 : ℚ), zpow_neg (2 ^ 4096 : ℚ)]
          exact inv_anti₀ (by positivity) (zpow_le_zpow_left₀ hneg (by positivity) hbase)
        _ = 2 ^ (k * (4096 : Nat)) := by rw [mul_comm, zpow_mul]; rfl
  exact le_of_pow_le_pow_left₀ (by norm_num) (by positivity) hroot

/-- **The leading digit** that is found does not lie above the number. -/
theorem pow_magnitude_le {m : Nat} {e : Int} (hm : m ≠ 0) (he : -4096 ≤ e) :
    (10 : ℚ) ^ (ofMantissa m e).magnitude m e ≤ m * 2 ^ e := by
  have hspans := spans_ofMantissa hm e
  have hplace : (2 : ℚ) ^ (e + m.log2) ≤ m * 2 ^ e := by
    rw [zpow_add₀ (by norm_num), mul_comm]
    gcongr
    rw [zpow_natCast]
    exact_mod_cast Nat.log2_self_le hm
  -- a place is tried by comparing the shifted value with one
  have htry : ∀ p : Int, ((ofMantissa m e).shift p).denominator ≤ ((ofMantissa m e).shift p).value ↔
      (10 : ℚ) ^ p ≤ m * 2 ^ e := by
    intro p
    have hpos : (0 : ℚ) < ((ofMantissa m e).shift p).denominator :=
      Nat.cast_pos.mpr (hspans.shift p).pos
    rw [← Nat.cast_le (α := ℚ), ← one_le_div hpos, (hspans.shift p).value,
      one_le_div (by positivity)]
  simp only [magnitude]
  split
  · next h => exact (htry _).mp h
  · split
    · have hguess : ((e + m.log2) * 1233).fdiv 4096 * 4096 ≤ (e + m.log2) * 1233 := by
        rw [Int.fdiv_eq_ediv_of_nonneg _ (by decide)]
        exact Int.ediv_mul_le _ (by decide)
      exact (pow_ten_le_pow_two hguess (by omega)).trans hplace
    · next h => exact (htry _).mp (Nat.le_of_not_lt h)

end ReadingInterval

/-! ## The shortest decimal -/

/-- A decimal without the zeros at its end is the same decimal. -/
theorem dropTrailingZeros_spec (fuel d : Nat) (p : Int) :
    ((dropTrailingZeros fuel d p).1 : ℚ) * 10 ^ (dropTrailingZeros fuel d p).2 = d * 10 ^ p := by
  induction fuel generalizing d p with
  | zero => rfl
  | succ fuel ih =>
    rw [dropTrailingZeros]
    by_cases hzero : d ≠ 0 ∧ d % 10 = 0
    · have hd : d = 10 * (d / 10) := by omega
      rw [if_pos hzero, ih, zpow_add₀ (by norm_num), zpow_one]
      conv_rhs => rw [hd]
      push_cast
      ring
    · rw [if_neg hzero]

namespace Binary64

/-- **The shortest decimal** lies in the interval of its number. -/
theorem roundsTo_shortest {m : Nat} {e : Int} (hc : Canonical m e) (hm : m ≠ 0) :
    RoundsTo ((shortest m e).1 * 10 ^ (shortest m e).2) m e := by
  obtain ⟨top, htop⟩ : ∃ top, (ReadingInterval.ofMantissa m e).magnitude m e = top := ⟨_, rfl⟩
  have hmin : -1074 ≤ e := hc.min_le
  have hle : (10 : ℚ) ^ top ≤ m * 2 ^ e :=
    htop ▸ ReadingInterval.pow_magnitude_le hm (by omega)
  have hspans : ∀ p, ((ReadingInterval.ofMantissa m e).shift p).Spans m e p :=
    (ReadingInterval.spans_ofMantissa hm e).shift
  -- a grid of seventeen digits is finer than the interval
  have hwide : (10 : ℚ) ^ (top - 16) < (1 / 2 + reach m e) * 2 ^ e := by
    have hm53 : (m : ℚ) < 2 ^ 53 := by exact_mod_cast hc.lt_pow
    have hgrid : (10 : ℚ) ^ (top - 16) ≤ m / 10 ^ 16 * 2 ^ e := by
      rw [zpow_sub₀ (by norm_num), div_le_iff₀ (by positivity)]
      calc (10 : ℚ) ^ top ≤ m * 2 ^ e := hle
        _ = m / 10 ^ 16 * 2 ^ e * 10 ^ (16 : Int) := by
          rw [show ((10 : ℚ) ^ (16 : Int)) = 10 ^ 16 from rfl]
          field_simp
    have hreach : (m : ℚ) / 10 ^ 16 < 1 / 2 + reach m e := by
      rw [div_lt_iff₀ (by positivity), reach]
      split
      · next hpow =>
        rw [hpow.1]
        norm_num
      · linarith
    calc (10 : ℚ) ^ (top - 16) ≤ m / 10 ^ 16 * 2 ^ e := hgrid
      _ < (1 / 2 + reach m e) * 2 ^ e := by gcongr
  simp only [shortest, if_neg hm, htop]
  cases hhit : (List.range 17).findSome? fun k : Nat =>
      (((ReadingInterval.ofMantissa m e).shift (top - k)).nearest?).map fun d => (d, top - k) with
  | none =>
    have hnone := List.findSome?_eq_none_iff.mp hhit 16 (by decide)
    rw [Option.map_eq_none_iff] at hnone
    exact absurd hnone (ReadingInterval.nearest?_ne_none (hspans _) hwide)
  | some hit =>
    obtain ⟨k, -, hk⟩ := List.exists_of_findSome?_eq_some hhit
    obtain ⟨d, hd, rfl⟩ := Option.map_eq_some_iff.mp hk
    dsimp only
    rw [dropTrailingZeros_spec]
    exact ((hspans _).contains_iff d).mp (ReadingInterval.contains_of_nearest?_eq_some hd)

section Decimal

variable {m digits : Nat} {e exponent : Int}

/-- The number of digits bounds a decimal from above, as the least exponent does a number from
below. -/
theorem RoundsTo.neg_le_places (h : RoundsTo (digits * 10 ^ exponent) m e) (hc : Canonical m e)
    (hm : m ≠ 0) : -330 ≤ exponent + (Text.ofNat digits).length := by
  have hlt : (2 : ℚ) ^ (-1075 : Int) < 10 ^ (exponent + (Text.ofNat digits).length) := by
    calc (2 : ℚ) ^ (-1075 : Int) ≤ 2 ^ (e - 1) := by
          have hmin : -1074 ≤ e := hc.min_le
          exact zpow_le_zpow_right₀ (by norm_num) (by omega)
      _ ≤ digits * 10 ^ exponent := h.pos hm
      _ < 10 ^ (Text.ofNat digits).length * 10 ^ exponent := by
        gcongr
        exact_mod_cast Text.lt_pow_length_ofNat digits
      _ = 10 ^ (exponent + (Text.ofNat digits).length) := by
        rw [zpow_add₀ (by norm_num), zpow_natCast, mul_comm]
  have hpow : (10 : ℚ) ^ (-330 : Int) ≤ 2 ^ (-1075 : Int) := by
    rw [zpow_neg, zpow_neg]
    apply inv_anti₀ (by positivity)
    exact_mod_cast (by decide +kernel : (2 : Nat) ^ 1075 ≤ 10 ^ 330)
  exact ((zpow_lt_zpow_iff_right₀ (by norm_num : (1 : ℚ) < 10)).mp (hpow.trans_lt hlt)).le

/-- It bounds a decimal from below, as the greatest exponent does a number from above. -/
theorem RoundsTo.places_le (h : RoundsTo (digits * 10 ^ exponent) m e) (hc : Canonical m e)
    (hdigits : digits ≠ 0) : exponent + (Text.ofNat digits).length ≤ 330 := by
  have hlt : (10 : ℚ) ^ (exponent + ((Text.ofNat digits).length - 1 : Nat)) <
      2 ^ (1024 : Int) := by
    calc (10 : ℚ) ^ (exponent + ((Text.ofNat digits).length - 1 : Nat))
        = 10 ^ ((Text.ofNat digits).length - 1) * 10 ^ exponent := by
          rw [zpow_add₀ (by norm_num), zpow_natCast, mul_comm]
      _ ≤ digits * 10 ^ exponent := by
        gcongr
        exact_mod_cast Text.pow_le_of_length_ofNat hdigits
      _ ≤ (m + 1 / 2) * 2 ^ e := h.le.2
      _ < 2 ^ 53 * 2 ^ e := by
        have hm53 : (m : ℚ) + 1 ≤ 2 ^ 53 := by exact_mod_cast hc.lt_pow
        gcongr
        linarith
      _ = 2 ^ (53 + e) := by rw [zpow_add₀ (by norm_num)]; rfl
      _ ≤ 2 ^ (1024 : Int) := by
        have hmax : e ≤ 971 := hc.le_max
        exact zpow_le_zpow_right₀ (by norm_num) (by omega)
  have hpow : (2 : ℚ) ^ (1024 : Int) ≤ 10 ^ (329 : Int) := by
    exact_mod_cast (by decide +kernel : (2 : Nat) ^ 1024 ≤ 10 ^ 329)
  have hlength : 0 < (Text.ofNat digits).length := Text.length_ofNat_pos digits
  have hplaces :=
    (zpow_lt_zpow_iff_right₀ (by norm_num : (1 : ℚ) < 10)).mp (hlt.trans_le hpow)
  omega

/-- A decimal that is not out of range is read as a fraction. -/
theorem exists_ofDecimal_eq (hdigits : digits ≠ 0)
    (hlow : -330 ≤ exponent + (Text.ofNat digits).length)
    (hhigh : exponent + (Text.ofNat digits).length ≤ 330) :
    ∃ n d : Nat, 0 < d ∧ (n : ℚ) / d = digits * 10 ^ exponent ∧
      ∀ negative, ofDecimal negative digits exponent = ofFraction negative n d := by
  have hin : ¬(decide (digits = 0) ||
      decide (exponent + (Nat.toDigits 10 digits).length < -330)) = true := by
    rw [Bool.or_eq_true, decide_eq_true_eq, decide_eq_true_eq, not_or, not_lt]
    exact ⟨hdigits, hlow⟩
  have hfits : ¬ 330 < exponent + (Nat.toDigits 10 digits).length := not_lt.mpr hhigh
  by_cases hexponent : 0 ≤ exponent
  · refine ⟨digits * Nat.pow 10 exponent.toNat, 1, Nat.one_pos, ?_, ?_⟩
    · rw [← Int.toNat_of_nonneg hexponent, zpow_natCast, Int.toNat_natCast, Nat.cast_one, div_one,
        Nat.cast_mul]
      exact congrArg _ (Nat.cast_pow 10 _)
    · intro negative
      rw [ofDecimal, if_neg hin, if_neg hfits, if_pos hexponent]
  · refine ⟨digits, Nat.pow 10 (-exponent).toNat, Nat.pow_pos (by decide), ?_, ?_⟩
    · have hpow : ((Nat.pow 10 (-exponent).toNat : Nat) : ℚ) = 10 ^ (-exponent) := by
        rw [← Int.toNat_of_nonneg (show 0 ≤ -exponent by omega), zpow_natCast, Int.toNat_natCast]
        exact Nat.cast_pow 10 _
      rw [hpow, zpow_neg, div_inv_eq_mul]
    · intro negative
      rw [ofDecimal, if_neg hin, if_neg hfits, if_neg hexponent]

/-- **Decimals in the interval of a number** are read as it. -/
theorem ofDecimal_eq_of_roundsTo (hc : Canonical m e) (hm : m ≠ 0)
    (h : RoundsTo (digits * 10 ^ exponent) m e) (negative : Bool) :
    ofDecimal negative digits exponent = finite negative m e := by
  have hpos : (0 : ℚ) < digits * 10 ^ exponent := lt_of_lt_of_le (by positivity) (h.pos hm)
  have hdigits : digits ≠ 0 := by
    rintro rfl
    simp at hpos
  obtain ⟨n, d, hd, hvalue, hfraction⟩ :=
    exists_ofDecimal_eq hdigits (h.neg_le_places hc hm) (h.places_le hc hdigits)
  rw [hfraction]
  rw [← hvalue] at h
  exact ofFraction_eq_of_roundsTo hd hc hm h negative

end Decimal

end Binary64

end Roleplay
