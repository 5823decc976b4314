import Roleplay.World.Basic

/-!
# World sheets

The text form of a state, as it stands in a prompt: a block for each entity under its display
name, a line for each text and indented lines for the items of a list. Within a block the texts
come before the lists, so that no text is read back as an item.

## Main definitions

* `Labels`: display names by entity key
* `Attribute.sheet`, `Entity.sheet`, `WorldState.sheet`: the text forms
* `Item.summary`, `summarize`: items on one line
-/

namespace Roleplay

/-- **Display names** by entity key, in their order. -/
abbrev Labels := Entries Text

/-- The key of the entity that the assistant plays. -/
def characterKey : Text := "character"

/-- The key of the entity that the user plays. -/
def userKey : Text := "user"

/-- The display names of the two speakers, with defaults for missing and empty ones. -/
def Labels.ofNames (character user : Option Text) : Labels :=
  [(characterKey, Text.given character "Character"), (userKey, Text.given user "User")]

/-- The display name of a key, the key itself when it has none. -/
def Labels.display (ls : Labels) (key : Text) : Text :=
  Text.given (ls.get? key) key

/-- The line of an item; nothing follows the colon of one without a description. -/
def Item.line (i : Item) : Text :=
  if i.description.isEmpty then i.name ++ [':'] else i.name ++ [':', ' '] ++ i.description

/-- The text form of an attribute, empty when there is nothing in it. -/
def Attribute.sheet (a : Attribute) : Text :=
  if a.hasContent then
    match a.value with
    | .text t => a.name ++ [':', ' '] ++ t
    | .list items =>
      a.name ++ [':', '\n'] ++ Text.join ['\n'] (items.map fun i => [' ', ' '] ++ i.line)
  else []

/-- The attributes in the order of a sheet: texts, then lists. -/
def Entity.sheetOrder (e : Entity) : List Attribute :=
  e.attributes.filter (!·.value.isList) ++ e.attributes.filter (·.value.isList)

/-- **The block of an entity**, empty when nothing is known about it. -/
def Entity.sheet (e : Entity) (label : Text) : Text :=
  let parts := (e.sheetOrder.map (·.sheet)).filter (!·.isEmpty)
  if parts.isEmpty then [] else label ++ [':', '\n'] ++ Text.join ['\n'] parts

/-- The block of an entity that may be missing. -/
def Entity.sheet? (e : Option Entity) (label : Text) : Text :=
  match e with
  | none => []
  | some e => e.sheet label

namespace WorldState

/-- **The sheet of a state**: the blocks that are not empty, a blank line between each two. -/
def sheet (s : WorldState) (labels : Labels) : Text :=
  let blocks := s.entities.map fun (k, e) => e.sheet (labels.display k)
  Text.join ['\n', '\n'] (blocks.filter (!·.isEmpty))

/-- The sheet of a state that may be missing; without display names the default ones stand. -/
def sheet? (s : Option WorldState) (labels : Labels) : Text :=
  match s with
  | none => []
  | some s => s.sheet (if labels.isEmpty then .ofNames none none else labels)

/-- The block of the entity that the assistant plays. -/
def characterSheet (s : Option WorldState) (name : Option Text) : Text :=
  Entity.sheet? (s.bind (·.find? characterKey)) (Text.given name "Character")

/-- The block of the entity that the user plays. -/
def userSheet (s : Option WorldState) (name : Option Text) : Text :=
  Entity.sheet? (s.bind (·.find? userKey)) (Text.given name "User")

end WorldState

/-- An item within a summary. -/
def Item.summary (i : Item) : Text :=
  if i.description.isEmpty then i.name else i.name ++ [':', ' '] ++ i.description

/-- **Items on one line.** -/
def summarize (items : List Item) : Text :=
  Text.join [',', ' '] (items.map (·.summary))

end Roleplay
