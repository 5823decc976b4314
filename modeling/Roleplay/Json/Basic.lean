import Roleplay.Entries
import Roleplay.Number.Binary64

/-!
# JSON values

A JSON value keeps what a document shows: whole numbers apart from binary ones, and the members of
an object in their order.

## Main definitions

* `Json`: the values
* `Members`: the members of an object
* `Json.kind`: the name of the kind of a value
* `Json.isTruthy`: whether a value counts as present where any kind is accepted
-/

namespace Roleplay

/-- **JSON values.** -/
inductive Json
  | null
  | bool (b : Bool)
  | int (i : Int)
  | float (x : Binary64)
  | str (s : Text)
  | arr (items : List Json)
  | obj (members : List (Text × Json))
deriving Repr, Inhabited, BEq

/-- **The members of an object**, in their order. -/
abbrev Members := Entries Json

namespace Members

/-- The value of a member, null when there is none. -/
def get (ms : Members) (k : Text) : Json :=
  (ms.get? k).getD .null

/-- The members whose value is not null. -/
def present (ms : Members) : Members :=
  ms.filter fun m => m.2 matches .null |>.not

end Members

namespace Json

/-- The name of the kind of a value. -/
def kind : Json → Text
  | null => "NoneType"
  | bool _ => "bool"
  | int _ => "int"
  | float _ => "float"
  | str _ => "str"
  | arr _ => "list"
  | obj _ => "dict"

/-- A text that may be missing. -/
def ofText? : Option Text → Json
  | none => null
  | some t => str t

/-- A whole number that may be missing. -/
def ofInt? : Option Int → Json
  | none => null
  | some i => int i

/-- Whether a value is neither null, false, zero nor empty. -/
def isTruthy : Json → Bool
  | null => false
  | bool b => b
  | int i => i != 0
  | float (.finite _ m _) => m != 0
  | float _ => true
  | str s => !s.isEmpty
  | arr xs => !xs.isEmpty
  | obj ms => !ms.isEmpty

end Json

end Roleplay
