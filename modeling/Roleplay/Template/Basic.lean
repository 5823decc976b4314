import Roleplay.Json.Display
import Roleplay.Text.Alphanumeric

/-!
# Templates: names and values

A template is text with placeholders and conditional blocks. Both name a variable; a variable has
a JSON value, and only its presence and its text count.

## Main definitions

* `Template.Variables`: the values of the variables
* `Template.isName t`: `t` may name a variable
* `Template.isSet v`: `v` keeps the body of a block
* `Template.Variables.isSet`, `Template.Variables.text`: the two ways a template uses a variable
-/

namespace Roleplay.Template

/-- **Variables** with their values. -/
abbrev Variables := Members

/-- Whether a text may name a variable: word characters, at least one. -/
def isName (t : Text) : Bool :=
  !t.isEmpty && t.all Text.isWord

/-- Whether a value keeps the body of a block. Only null, false and the empty text do not; zero
and the text `false` do. -/
def isSet : Json → Bool
  | .null => false
  | .bool b => b
  | .str s => !s.isEmpty
  | _ => true

/-- The text that stands for a value. -/
def valueText : Json → Text
  | .null => []
  | .bool true => "true"
  | .bool false => "false"
  | v => v.shown

/-- Whether a variable is there and set. -/
def Variables.isSet (vars : Variables) (name : Text) : Bool :=
  Template.isSet (Members.get vars name)

/-- The text of a variable, empty when it is not there. -/
def Variables.text (vars : Variables) (name : Text) : Text :=
  valueText (Members.get vars name)

end Roleplay.Template
