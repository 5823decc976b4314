import Roleplay.Number.Binary64
import Roleplay.Text.Blank
import Roleplay.Text.Decimal
import Roleplay.Text.Quoted

/-!
# Numerals

Reading numbers from text, strictly and leniently.

## Main definitions

* `Numeral.integer`: a whole number in the decimal digits of any script, or why there is none
* `Numeral.lenientInt?`: a whole number, also with a fraction of zeros
* `Numeral.float?`: a binary number, also an infinity
-/

namespace Roleplay.Numeral

/-- The value of a digit of the ten ASCII digits. -/
def asciiDigit? (c : Char) : Option Nat :=
  if c.isDigit then some (c.toNat - '0'.toNat) else none

/-- The number whose digits are given, the highest first. -/
def ofDigits (ds : List Nat) : Nat :=
  ds.foldl (fun n d => 10 * n + d) 0

/-- The digits of a numeral in which single underscores may stand between digits. -/
def groupedDigits? (value : Char → Option Nat) : Text → Option (List Nat)
  | [] => none
  | [c] => (value c).map ([·])
  | c :: '_' :: t => do return (← value c) :: (← groupedDigits? value t)
  | c :: d :: t => do return (← value c) :: (← groupedDigits? value (d :: t))

/-- A sign and what follows it; no sign is the positive one. -/
def sign : Text → Bool × Text
  | '-' :: t => (true, t)
  | '+' :: t => (false, t)
  | t => (false, t)

/-- A whole number with its sign. -/
def signed (negative : Bool) (n : Nat) : Int :=
  if negative then -(n : Int) else (n : Int)

/-- The most digits that a numeral may have. -/
def maxDigits : Nat := 4300

/-- Why a text is no whole number, or a whole number is given no text. -/
inductive Fault
  | notInteger (text : Text)
  | tooManyDigits (count : Nat)
  | notWritable
deriving DecidableEq, Repr

/-- The wording of a fault. -/
def Fault.message : Fault → Text
  | .notInteger t => "invalid literal for int() with base 10: " ++ t.quoted
  | .tooManyDigits n =>
    "Exceeds the limit (4300 digits) for integer string conversion: value has " ++ Text.ofNat n
      ++ " digits; use sys.set_int_max_str_digits() to increase the limit".toList
  | .notWritable =>
    "Exceeds the limit (4300 digits) for integer string conversion; "
      ++ "use sys.set_int_max_str_digits() to increase the limit".toList

/-- Blanks around a numeral: those of ASCII that are no separators, and all others. -/
def isMargin (c : Char) : Bool :=
  if c.toNat < 128 then (9 ≤ c.toNat && c.toNat ≤ 13) || c == ' ' else Text.isBlank c

/-- **A whole number** in the decimal digits of any script: blanks around it, a sign, and single
underscores between digits. -/
def integer (t : Text) : Except Fault Int :=
  let (negative, body) := sign (t.stripWhere isMargin)
  match groupedDigits? Text.decimalValue? body with
  | none => .error (.notInteger t)
  | some ds =>
    if maxDigits < ds.length then .error (.tooManyDigits ds.length)
    else .ok (signed negative (ofDigits ds))

/-- The blanks that lenient reading strips: the separators and the spacing controls. -/
def isSpace (c : Char) : Bool :=
  Text.isBlank c && !(28 ≤ c.toNat && c.toNat ≤ 31)

/-- A whole number leniently: blanks around it, a sign, single underscores between digits, and a
fraction of zeros. -/
def lenientInt? (t : Text) : Option Int :=
  if maxDigits < t.length then none
  else
    let (negative, body) := sign (t.stripWhere isSpace)
    let whole := body.takeWhile (· ≠ '.')
    let fraction := body.drop (whole.length + 1)
    if fraction.all (· = '0') then
      (groupedDigits? asciiDigit? whole).map fun ds => signed negative (ofDigits ds)
    else none

/-- An exponent, when the text is empty or is one. -/
def exponent? : Text → Option Int
  | [] => some 0
  | c :: t =>
    if c = 'e' ∨ c = 'E' then
      let (negative, ds) := sign t
      if ds.isEmpty then none
      else (ds.mapM asciiDigit?).map fun ds => signed negative (ofDigits ds)
    else none

/-- The number of a numeral without its sign: digits with a point among them or without, and an
exponent. -/
def unsignedFloat? (negative : Bool) (t : Text) : Option Binary64 :=
  let whole := t.takeWhile Char.isDigit
  let rest := t.drop whole.length
  let fraction := match rest with
    | '.' :: r => r.takeWhile Char.isDigit
    | _ => []
  let rest := match rest with
    | '.' :: r => r.drop fraction.length
    | r => r
  if whole.isEmpty && fraction.isEmpty then none
  else (exponent? rest).map fun e =>
    .ofDecimal negative (ofDigits ((whole ++ fraction).filterMap asciiDigit?)) (e - fraction.length)

/-- **A binary number**: a numeral with a sign, or the name of an infinity or of no number, in
any case of letters. -/
def float? (t : Text) : Option Binary64 :=
  let (negative, body) := sign t
  let name := body.map Char.toLower
  if name = "inf".toList ∨ name = "infinity".toList then some (.infinity negative)
  else if name = "nan".toList then some .nan
  else unsignedFloat? negative body

end Roleplay.Numeral
