import Roleplay.Number.Binary64
import Roleplay.Text.Basic

/-!
# The shortest decimal that reads back

A number is written with the fewest digits that read back as the same number, and of those the
nearest to it. The reals that read as `m * 2 ^ e` are an interval around it, its ends included
when `m` is even; a grid of decimals has a point in the interval only if one of the two points
next to the number lies in it, so the first grid with a hit gives the digits.

A layout then says where the digits are written positionally and how an exponent is written.

## Main definitions

* `Binary64.shortest m e`: the digits and the power of ten
* `Layout`: which exponents are written positionally, and the least width of an exponent
* `Layout.write`: the digits in a layout
-/

namespace Roleplay

/-- The reals that read as a number, around it: its numerator and those of the two ends over one
denominator, and whether the ends belong to them. -/
structure ReadingInterval where
  low : Nat
  value : Nat
  high : Nat
  denominator : Nat
  closed : Bool
deriving Repr

namespace ReadingInterval

/-- The interval of `m * 2 ^ e`. Below a power of two the numbers lie closer. -/
def ofMantissa (m : Nat) (e : Int) : ReadingInterval :=
  let below := if m = Nat.pow 2 52 && Binary64.minExponent < e then 1 else 2
  let (unit, denominator) := Binary64.scale 1 1 (e - 2)
  ⟨(4 * m - below) * unit, 4 * m * unit, (4 * m + 2) * unit, denominator, m % 2 = 0⟩

/-- The interval divided by `10 ^ p`. -/
def shift (i : ReadingInterval) (p : Int) : ReadingInterval :=
  if 0 ≤ p then { i with denominator := i.denominator * Nat.pow 10 p.toNat }
  else
    let k := Nat.pow 10 (-p).toNat
    { i with low := i.low * k, value := i.value * k, high := i.high * k }

/-- Whether a whole number lies in the interval. -/
def contains (i : ReadingInterval) (d : Nat) : Bool :=
  let n := d * i.denominator
  if i.closed then i.low ≤ n && n ≤ i.high else i.low < n && n < i.high

/-- The whole number in the interval next to the value, of two the nearer, of two as near the
even one. -/
def nearest? (i : ReadingInterval) : Option Nat :=
  let d := i.value / i.denominator
  match i.contains d, i.contains (d + 1) with
  | true, false => some d
  | false, true => some (d + 1)
  | true, true => some (Binary64.roundDiv i.value i.denominator)
  | false, false => none

/-- The power of ten of the leading digit of the value. -/
def magnitude (i : ReadingInterval) (m : Nat) (e : Int) : Int :=
  let guess := ((e + m.log2) * 1233).fdiv 4096
  let above := i.shift (guess + 1)
  let at_ := i.shift guess
  if above.denominator ≤ above.value then guess + 1
  else if at_.value < at_.denominator then guess - 1
  else guess

end ReadingInterval

/-- A decimal without the zeros at its end. -/
def dropTrailingZeros : (fuel digits : Nat) → (exponent : Int) → Nat × Int
  | 0, d, p => (d, p)
  | fuel + 1, d, p =>
    if d ≠ 0 ∧ d % 10 = 0 then dropTrailingZeros fuel (d / 10) (p + 1) else (d, p)

/-- **The shortest decimal** of `m * 2 ^ e`: digits and a power of ten. Seventeen digits always
read back, so some grid has a hit. -/
def Binary64.shortest (m : Nat) (e : Int) : Nat × Int :=
  if m = 0 then (0, 0)
  else
    let i := ReadingInterval.ofMantissa m e
    let top := i.magnitude m e
    let hit := (List.range 17).findSome? fun k : Nat =>
      ((i.shift (top - k)).nearest?).map fun d => (d, top - k)
    match hit with
    | some (d, p) => dropTrailingZeros 20 d p
    | none => (0, 0)

/-- **How a number is laid out**: the exponents, of its leading digit, that are written
positionally, and the least number of digits of any other exponent. -/
structure Layout where
  positionalFrom : Int
  positionalTo : Int
  exponentWidth : Nat
deriving DecidableEq, Repr

namespace Layout

/-- Numbers in texts and documents: positional from a ten-thousandth to below ten to the
sixteenth, exponents of at least two digits. -/
def wide : Layout := ⟨-4, 15, 2⟩

/-- Numbers in compact documents: positional from a hundred-thousandth to below ten to the
sixteenth, exponents without leading zeros. -/
def compact : Layout := ⟨-5, 15, 1⟩

/-- The decimal `digits * 10 ^ exponent` in a layout. -/
def write (l : Layout) (digits : Nat) (exponent : Int) : Text :=
  let s := Text.ofNat digits
  let top := exponent + s.length - 1
  if digits = 0 then ['0', '.', '0']
  else if l.positionalFrom ≤ top ∧ top ≤ l.positionalTo then
    if top < 0 then ['0', '.'] ++ List.replicate (-top - 1).toNat '0' ++ s
    else if 0 ≤ exponent then s ++ List.replicate exponent.toNat '0' ++ ['.', '0']
    else s.take (top + 1).toNat ++ '.' :: s.drop (top + 1).toNat
  else
    let fraction := s.drop 1
    s.take 1 ++ (if fraction.isEmpty then [] else '.' :: fraction)
      ++ ['e', if top < 0 then '-' else '+']
      ++ Text.padLeft l.exponentWidth (Text.ofNat top.natAbs)

/-- A finite number in a layout, with its sign. -/
def writeFinite (l : Layout) (negative : Bool) (m : Nat) (e : Int) : Text :=
  let (d, p) := Binary64.shortest m e
  (if negative then ['-'] else []) ++ l.write d p

end Layout

/-- The text of a number: `nan`, `inf` and `-inf` for what is not finite. -/
def Binary64.text : Binary64 → Text
  | .nan => "nan"
  | .infinity false => "inf"
  | .infinity true => "-inf"
  | .finite s m e => Layout.wide.writeFinite s m e

end Roleplay
