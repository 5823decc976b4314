/-!
# Binary floating-point numbers of 64 bits

A number is given by its sign, a whole mantissa and a power of two, so that every operation on it
is exact arithmetic on whole numbers: rounding a fraction to the nearest number, comparing with
a whole number, and reading off an integral value.

## Main definitions

* `Binary64`: the numbers, the two infinities and the number that is none
* `Binary64.ofFraction`: the number nearest to a fraction, of two nearest the even one
* `Binary64.ofInt?`: the number nearest to a whole number, when that is finite
* `Binary64.toInt?`: the value of an integral number
* `Binary64.within`: whether a number lies between two whole numbers
-/

namespace Roleplay

/-- **Numbers of 64 bits.** `finite negative m e` is `m * 2 ^ e` with its sign; the mantissa is
below `2 ^ 53`, the exponent at least `-1074`, and one of them as small as the other allows. -/
inductive Binary64
  | nan
  | infinity (negative : Bool)
  | finite (negative : Bool) (mantissa : Nat) (exponent : Int)
deriving DecidableEq, Repr, Inhabited

namespace Binary64

/-- The least exponent. -/
def minExponent : Int := -1074

/-- The greatest exponent. -/
def maxExponent : Int := 971

/-- Zero with a sign. -/
def zero (negative : Bool) : Binary64 :=
  finite negative 0 minExponent

/-- The quotient rounded to the nearest whole number, of two nearest to the even one. -/
def roundDiv (n d : Nat) : Nat :=
  let q := n / d
  let r := n % d
  if 2 * r < d then q else if d < 2 * r then q + 1 else q + q % 2

/-- `n * 2 ^ k` and `d`, or `n` and `d * 2 ^ (-k)`: a fraction scaled by a power of two. -/
def scale (n d : Nat) (k : Int) : Nat × Nat :=
  if 0 ≤ k then (n * Nat.pow 2 k.toNat, d) else (n, d * Nat.pow 2 (-k).toNat)

/-- The greatest `k` with `2 ^ k ≤ n / d`, for positive `n` and `d`. -/
def log2Fraction (n d : Nat) : Int :=
  let k : Int := (n.log2 : Int) - (d.log2 : Int)
  let (n', d') := scale n d (-k)
  if d' ≤ n' then k else k - 1

/-- **The number nearest to a fraction** `n / d`, of two nearest the one with the even mantissa;
an infinity from half a step above the greatest number on. -/
def ofFraction (negative : Bool) (n d : Nat) : Binary64 :=
  if n = 0 then zero negative
  else
    let e := max (log2Fraction n d - 52) minExponent
    let (n', d') := scale n d (-e)
    let m := roundDiv n' d'
    let (m, e) := if m = Nat.pow 2 53 then (Nat.pow 2 52, e + 1) else (m, e)
    if maxExponent < e then infinity negative else finite negative m e

/-- The number nearest to a whole number, when that is finite. -/
def ofInt? (i : Int) : Option Binary64 :=
  match ofFraction (i < 0) i.natAbs 1 with
  | .finite s m e => some (.finite s m e)
  | _ => none

/-- The number nearest to `digits * 10 ^ exponent`. Beyond three hundred and thirty places the
answer is an infinity or a zero whatever the digits are. -/
def ofDecimal (negative : Bool) (digits : Nat) (exponent : Int) : Binary64 :=
  let size := exponent + (Nat.toDigits 10 digits).length
  if digits = 0 || size < -330 then zero negative
  else if 330 < size then infinity negative
  else if 0 ≤ exponent then ofFraction negative (digits * Nat.pow 10 exponent.toNat) 1
  else ofFraction negative digits (Nat.pow 10 (-exponent).toNat)

/-- The value of a number that is integral. -/
def toInt? : Binary64 → Option Int
  | finite negative m e =>
    let signed := fun k : Nat => if negative then -(k : Int) else (k : Int)
    if 0 ≤ e then some (signed (m * Nat.pow 2 e.toNat))
    else if m % Nat.pow 2 (-e).toNat = 0 then some (signed (m / Nat.pow 2 (-e).toNat))
    else none
  | _ => none

/-- Whether a number lies between two whole numbers, both ends included. What is no number lies
nowhere. -/
def within (low high : Int) : Binary64 → Bool
  | finite negative m e =>
    let (n, d) := scale m 1 e
    let value : Int := if negative then -(n : Int) else (n : Int)
    low * d ≤ value && value ≤ high * d
  | _ => false

end Binary64

end Roleplay
