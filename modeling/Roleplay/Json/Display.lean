import Roleplay.Json.Basic
import Roleplay.Number.Shortest
import Roleplay.Text.Quoted

/-!
# The display form of a value

How a value is shown inside a text: a string as it is, anything else in its display form, in which
strings are quoted and null, true and false are `None`, `True` and `False`.

## Main definitions

* `Json.display`: the display form, as it stands inside a list
* `Json.shown`: the form inside a text
-/

namespace Roleplay.Json

mutual

/-- **The display form** of a value. -/
def display : Json → Text
  | .null => "None"
  | .bool true => "True"
  | .bool false => "False"
  | .int i => Text.ofInt i
  | .float x => x.text
  | .str s => s.quoted
  | .arr xs => ['['] ++ Text.join [',', ' '] (displayItems xs) ++ [']']
  | .obj ms => ['\x7b'] ++ Text.join [',', ' '] (displayMembers ms) ++ ['\x7d']

/-- The display forms of items. -/
def displayItems : List Json → List Text
  | [] => []
  | x :: xs => display x :: displayItems xs

/-- The display forms of members. -/
def displayMembers : List (Text × Json) → List Text
  | [] => []
  | (k, v) :: ms => (k.quoted ++ [':', ' '] ++ display v) :: displayMembers ms

end

/-- **A value inside a text**: a string as it is, anything else in its display form. -/
def shown : Json → Text
  | .str s => s
  | v => display v

end Roleplay.Json
