import Roleplay.Text.Basic

/-!
# Ranges of characters

A class of characters is given by the ranges of its code points.

## Main definitions

* `Text.Ranges`: code point ranges, both ends included
* `Text.Ranges.contains rs c`: `c` lies in one of the ranges
-/

namespace Roleplay.Text

/-- **Code point ranges**, both ends included. -/
abbrev Ranges := List (Nat × Nat)

/-- Whether a character lies in one of the ranges. -/
def Ranges.contains (rs : Ranges) (c : Char) : Bool :=
  rs.any fun r => r.1 ≤ c.toNat && c.toNat ≤ r.2

end Roleplay.Text
