import Roleplay.Json.Checked
import Roleplay.Number.Numeral

/-!
# Lenient reading of single values

A value of another kind is taken where its meaning is clear: an integral number or a numeral for a
whole number, a whole number or a numeral for a binary one, a zero, a one or a word for a truth
value. Text is text only.

## Main definitions

* `Json.asText`, `Json.asInteger`, `Json.asNumber`, `Json.asFlag`: the four kinds
-/

namespace Roleplay.Json

/-- Text. -/
def asText : Json → Checked Text
  | str s => .valid s
  | _ => .invalid [[]]

/-- Whether a whole number read from a binary one is not too large to be exact. -/
def fitsWord (i : Int) : Bool :=
  -(Int.pow 2 63) < i && i < Int.pow 2 63

/-- The whole number that a value means. -/
def toInteger? : Json → Option Int
  | int i => some i
  | bool b => some (if b then 1 else 0)
  | float x => x.toInt?.filter fitsWord
  | str s => Numeral.lenientInt? s
  | _ => none

/-- **A whole number**: one, a truth value, an integral binary number, or a numeral. -/
def asInteger (v : Json) : Checked Int :=
  .ofOption v.toInteger?

/-- The binary number that a value means. -/
def toNumber? : Json → Option Binary64
  | float x => some x
  | int i => Binary64.ofInt? i
  | bool b => Binary64.ofInt? (if b then 1 else 0)
  | str s => Numeral.float? (s.stripWhere Numeral.isSpace)
  | _ => none

/-- **A binary number**: one, a whole number, a truth value, or a numeral. -/
def asNumber (v : Json) : Checked Binary64 :=
  .ofOption v.toNumber?

/-- The words for truth and falsehood. -/
def flagWords : List (Text × Bool) :=
  [("0", false), ("off", false), ("f", false), ("false", false), ("n", false), ("no", false),
    ("1", true), ("on", true), ("t", true), ("true", true), ("y", true), ("yes", true)]

/-- The truth value that a value means. -/
def toFlag? : Json → Option Bool
  | bool b => some b
  | int i => if i = 0 then some false else if i = 1 then some true else none
  | float x =>
    if x.toInt? = some 0 then some false else if x.toInt? = some 1 then some true else none
  | str s => flagWords.lookup (s.map Char.toLower)
  | _ => none

/-- **A truth value**: one, a zero or a one, or a word. -/
def asFlag (v : Json) : Checked Bool :=
  .ofOption v.toFlag?

end Roleplay.Json
