import Roleplay.Store.Users
import Roleplay.Template.Placeholder
import Roleplay.Transcript
import Roleplay.World.Sheet

/-!
# The variables of a prompt

What a template may name: the two speakers, the texts of the card, the sheet of the world, the
transcript; and the attributes of the character, each under a name made from its own.

## Main definitions

* `variableName`: the name under which an attribute can be used
* `stateVariables`: the attributes of the character as variables
* `Brief`, `Brief.scope`: what is gathered before a template is rendered, and its variables
-/

namespace Roleplay

/-- **The name under which an attribute can be used**: small letters, an underscore for each run of
characters that are no word characters, none at either end. -/
def variableName (name : Text) : Text :=
  (name.strip.lower.squeeze (!Text.isWord ·) '_').stripWhere (· = '_')

/-- An attribute as a variable, unless its name has no word characters. -/
def Attribute.asVariable? (a : Attribute) : Option (Text × Json) :=
  let name := variableName a.name
  if name.isEmpty then none
  else some ("char_".toList ++ name, .str (match a.value with
    | .text t => t.strip
    | .list items => summarize items))

/-- The variables of attributes that are there even when the attributes are not. -/
def expectedVariables : Members :=
  [("char_mood", .str []), ("char_position", .str []), ("char_clothes", .str [])]

/-- **The attributes of the character as variables**, and whether there is anything in them. -/
def stateVariables (s : Option WorldState) : Members :=
  let attributes := match s.bind (·.find? characterKey) with
    | none => []
    | some e => e.attributes
  let scope := Entries.merge expectedVariables (attributes.filterMap (·.asVariable?))
  Entries.put scope "world_sidebar" (.bool (scope.any (·.2.isTruthy)))

/-- **What is gathered before a template is rendered.** -/
structure Brief where
  profile : Profile
  addressee : Addressee
  user : Option Int
  template : Text
  world : Option WorldState
  style : Text
deriving Repr

namespace Brief

/-- The display names of the two speakers. -/
def labels (b : Brief) : Labels :=
  .ofNames (some b.profile.name) (some b.addressee.name)

/-- **The variables of a brief** and a conversation. -/
def scope (b : Brief) (history : List Message) : Members :=
  [("char", .str b.profile.name), ("user", .str b.addressee.name),
    ("personality", .str b.profile.personality), ("scenario", .str b.profile.scenario),
    ("description", .str b.profile.description),
    ("world", .str (WorldState.sheet? b.world b.labels)),
    ("post_history", .str b.profile.postHistory), ("writing_style", .str b.style),
    ("user_description", .str b.addressee.description),
    ("history", .str (transcript history b.addressee.name (some b.profile.name)))]

end Brief

end Roleplay
