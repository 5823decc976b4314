import Mathlib.Algebra.Order.Ring.Nat
import Roleplay.Number.Numeral

/-!
# Decimal digits

A numeral of a whole number has digits only, and no zero in front unless it is that of zero. The
number that digits write is read off from the first of them on; digits put behind others shift
these by a power of ten.

## Main definitions

* `Text.AllDigits`: texts of ASCII digits
* `Numeral.valueOf`: the number that digits write

## Main results

* `Numeral.valueOf_append`: the number of digits behind others
* `Numeral.valueOf_ofNat`: a numeral writes its number
* `Numeral.valueOf_lt_pow`: the number of digits bounds the number
* `Text.ofNat_eq_cons`: a numeral of a positive number begins with no zero
* `Text.pow_le_of_length_ofNat`, `Text.lt_pow_length_ofNat`: the size of a number and the length of
  its numeral
-/

namespace Roleplay

namespace Text

/-- **Texts of digits** of ASCII. -/
def AllDigits (t : Text) : Prop :=
  ∀ c ∈ t, c.isDigit = true

theorem allDigits_nil : AllDigits [] := by
  intro c hc
  cases hc

theorem allDigits_cons {c : Char} {t : Text} :
    AllDigits (c :: t) ↔ c.isDigit = true ∧ t.AllDigits :=
  List.forall_mem_cons

theorem allDigits_append {s t : Text} : AllDigits (s ++ t) ↔ s.AllDigits ∧ t.AllDigits :=
  List.forall_mem_append

theorem allDigits_replicate (n : Nat) : AllDigits (List.replicate n '0') := by
  intro c hc
  rw [List.eq_of_mem_replicate hc]
  rfl

theorem AllDigits.take {t : Text} (h : t.AllDigits) (n : Nat) : AllDigits (t.take n) :=
  fun c hc => h c (List.mem_of_mem_take hc)

theorem AllDigits.drop {t : Text} (h : t.AllDigits) (n : Nat) : AllDigits (t.drop n) :=
  fun c hc => h c (List.mem_of_mem_drop hc)

theorem allDigits_ofNat (n : Nat) : (ofNat n).AllDigits :=
  fun _ hc => Nat.isDigit_of_mem_toDigits (by decide) (by decide) hc

theorem length_ofNat_pos (n : Nat) : 0 < (ofNat n).length :=
  Nat.length_toDigits_pos

/-- **No zero in front**: the numeral of a positive number begins with another digit. -/
theorem ofNat_eq_cons {n : Nat} (hn : n ≠ 0) : ∃ c t, ofNat n = c :: t ∧ c ≠ '0' := by
  induction n using Nat.strongRecOn with
  | ind n ih =>
    by_cases hlt : n < 10
    · refine ⟨n.digitChar, [], Nat.toDigits_of_lt_base hlt, ?_⟩
      rw [Ne, Nat.digitChar_eq_zero]
      exact hn
    · -- the front digit is that of the number without its last digit
      obtain ⟨c, t, hct, hc⟩ := ih (n / 10) (by omega) (by omega)
      refine ⟨c, t ++ [(n % 10).digitChar], ?_, hc⟩
      rw [ofNat, Nat.toDigits_of_base_le (by decide) (Nat.le_of_not_lt hlt)]
      rw [ofNat] at hct
      rw [hct]
      rfl

theorem lt_pow_length_ofNat (n : Nat) : n < 10 ^ (ofNat n).length :=
  (Nat.length_toDigits_le_iff (by decide) (length_ofNat_pos n)).mp (Nat.le_refl _)

theorem pow_le_of_length_ofNat {n : Nat} (hn : n ≠ 0) : 10 ^ ((ofNat n).length - 1) ≤ n := by
  by_cases hlength : (ofNat n).length - 1 = 0
  · rw [hlength]
    exact Nat.pos_of_ne_zero hn
  · apply Nat.le_of_not_lt
    intro hlt
    have hle : (ofNat n).length ≤ (ofNat n).length - 1 :=
      (Nat.length_toDigits_le_iff (by decide) (Nat.pos_of_ne_zero hlength)).mpr hlt
    have hpos := length_ofNat_pos n
    omega

end Text

namespace Numeral

/-- **The number that digits write.** -/
def valueOf (t : Text) : Nat :=
  ofDigits (t.filterMap asciiDigit?)

theorem valueOf_eq_ofDigitChars {t : Text} (h : t.AllDigits) :
    valueOf t = Nat.ofDigitChars 10 t 0 := by
  have hfrom : ∀ n, (t.filterMap asciiDigit?).foldl (fun n d => 10 * n + d) n =
      Nat.ofDigitChars 10 t n := by
    induction t with
    | nil =>
      intro n
      rfl
    | cons c t ih =>
      intro n
      obtain ⟨hc, ht⟩ := Text.allDigits_cons.mp h
      have hdigit : asciiDigit? c = some (c.toNat - '0'.toNat) := if_pos hc
      rw [List.filterMap_cons_some hdigit, List.foldl_cons, ih ht, Nat.ofDigitChars_cons]
  exact hfrom 0

/-- **Digits behind others** shift these by a power of ten. -/
theorem valueOf_append {s t : Text} (hs : s.AllDigits) (ht : t.AllDigits) :
    valueOf (s ++ t) = valueOf s * 10 ^ t.length + valueOf t := by
  rw [valueOf_eq_ofDigitChars (Text.allDigits_append.mpr ⟨hs, ht⟩), valueOf_eq_ofDigitChars hs,
    valueOf_eq_ofDigitChars ht, Nat.ofDigitChars_append, Nat.ofDigitChars_eq_ofDigitChars_zero,
    Nat.mul_comm]

/-- **A numeral writes its number.** -/
theorem valueOf_ofNat (n : Nat) : valueOf (Text.ofNat n) = n := by
  rw [valueOf_eq_ofDigitChars (Text.allDigits_ofNat n)]
  exact Nat.ofDigitChars_ten_toDigits

theorem valueOf_replicate (n : Nat) : valueOf (List.replicate n '0') = 0 := by
  rw [valueOf_eq_ofDigitChars (Text.allDigits_replicate n), Nat.ofDigitChars_replicate_zero,
    Nat.mul_zero]

/-- Zeros in front of digits change nothing. -/
theorem valueOf_replicate_append (n : Nat) {t : Text} (ht : t.AllDigits) :
    valueOf (List.replicate n '0' ++ t) = valueOf t := by
  rw [valueOf_append (Text.allDigits_replicate n) ht, valueOf_replicate, Nat.zero_mul, Nat.zero_add]

/-- A number has no more digits than are written. -/
theorem valueOf_lt_pow {t : Text} (ht : t.AllDigits) : valueOf t < 10 ^ t.length := by
  induction t with
  | nil => exact Nat.one_pos
  | cons c t ih =>
    obtain ⟨hc, ht⟩ := Text.allDigits_cons.mp ht
    have hfront : valueOf [c] ≤ 9 := by
      have hdigit : asciiDigit? c = some (c.toNat - '0'.toNat) := if_pos hc
      rw [valueOf, List.filterMap_cons_some hdigit]
      show 10 * 0 + (c.toNat - 48) ≤ 9
      rw [Char.isDigit] at hc
      simp only [Bool.and_eq_true, decide_eq_true_eq, UInt32.le_iff_toNat_le] at hc
      have hle : c.toNat ≤ 57 := hc.2
      omega
    have hfrontDigits : Text.AllDigits [c] := Text.allDigits_cons.mpr ⟨hc, Text.allDigits_nil⟩
    calc valueOf ([c] ++ t) = valueOf [c] * 10 ^ t.length + valueOf t :=
          valueOf_append hfrontDigits ht
      _ < (valueOf [c] + 1) * 10 ^ t.length := by
        rw [Nat.add_mul, Nat.one_mul]
        exact Nat.add_lt_add_left (ih ht) _
      _ ≤ 10 * 10 ^ t.length := Nat.mul_le_mul_right _ (by omega)
      _ = 10 ^ (t.length + 1) := by rw [Nat.pow_succ, Nat.mul_comm]

end Numeral

end Roleplay
