import Roleplay.Json.Basic
import Roleplay.Text.Blank
import Roleplay.Text.Case
import Roleplay.Text.Fold

/-!
# Scenarios

A scenario is a piece of text with a name. Its id is its name in small letters with underscores for
the blanks, and its display name is made from the id again. In its text, and in a greeting,
`{{char}}` and `{{user}}` stand for the names of the two speakers.

## Main definitions

* `Scenario`, `Scenario.nameOfId`, `Scenario.idOfName`
* `Text.replaceFolded`: every occurrence of a text, in any case, replaced
* `insertNames`: the names of the speakers put into a text
-/

namespace Roleplay

/-- **A scenario.** -/
structure Scenario where
  id : Text
  name : Text
  content : Text
deriving DecidableEq, Repr

/-- The document of a scenario. -/
def Scenario.toJson (s : Scenario) : Json :=
  .obj [("id", .str s.id), ("name", .str s.name), ("content", .str s.content)]

/-- The display name of an id: its words, each with a capital. -/
def Scenario.nameOfId (id : Text) : Text :=
  Text.join [' '] ((id.splitOn '_').map Text.capitalize)

/-- The id of a name: small letters, an underscore for each run of blanks. -/
def Scenario.idOfName (name : Text) : Text :=
  name.strip.lower.squeeze Text.isBlank '_'

/-- Every occurrence of `pattern`, in any case, replaced by `image`; the first `skip` characters
belong to an occurrence that is replaced already. -/
def Text.replaceFoldedFrom (pattern image : Text) : (skip : Nat) → Text → Text
  | _, [] => []
  | skip + 1, _ :: t => replaceFoldedFrom pattern image skip t
  | 0, c :: t =>
    if (Text.dropFolded? (c :: t) pattern).isSome then
      image ++ replaceFoldedFrom pattern image (pattern.length - 1) t
    else c :: replaceFoldedFrom pattern image 0 t

/-- **Every occurrence of a text, in any case, replaced**, from left to right. -/
def Text.replaceFolded (t pattern image : Text) : Text :=
  replaceFoldedFrom pattern image 0 t

/-- The placeholder of the character's name. -/
def characterMark : Text := ['\x7b', '\x7b'] ++ "char".toList ++ ['\x7d', '\x7d']

/-- The placeholder of the user's name. -/
def userMark : Text := ['\x7b', '\x7b'] ++ "user".toList ++ ['\x7d', '\x7d']

/-- A name in the place of its placeholder; without a name the placeholder stays. -/
def insertName (t mark : Text) (name : Option Text) : Text :=
  match name with
  | some (c :: n) => t.replaceFolded mark (c :: n)
  | _ => t

/-- **The names of the speakers put into a text**, the character's first. -/
def insertNames (t : Text) (character user : Option Text) : Text :=
  insertName (insertName t characterMark character) userMark user

end Roleplay
