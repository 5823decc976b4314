import Roleplay.Card
import Roleplay.Json.Lenient

/-!
# Characters

A character is a record with a card. Where both say something, a name or description of the record
wins over the card's, and a scenario from outside over both.

## Main definitions

* `Character`: the record
* `Profile`, `Character.profile`: what a prompt knows about a character
* `Character.introduction`: a character in the cast list of a scene
-/

namespace Roleplay

/-- **A character record.** -/
structure Character where
  id : Int
  name : Text := []
  description : Option Text := none
  postHistory : Option Text := none
  cardText : Text := ['\x7b', '\x7d']
deriving DecidableEq, Repr

/-- **What a prompt knows about a character.** -/
structure Profile where
  id : Int
  name : Text
  description : Text
  personality : Text
  scenario : Text
  exampleDialogue : Text
  systemPrompt : Text
  postHistory : Text
deriving DecidableEq, Repr

/-- The document of a profile. -/
def Profile.toJson (p : Profile) : Json :=
  .obj [("id", .int p.id), ("name", .str p.name), ("description", .str p.description),
    ("personality", .str p.personality), ("scenario", .str p.scenario),
    ("mes_example", .str p.exampleDialogue), ("system_prompt", .str p.systemPrompt),
    ("post_history", .str p.postHistory)]

namespace Character

/-- A character from its document. -/
def ofJson : Json → Checked Character :=
  Checked.object fun ms =>
    mk <$> ms.required ["id"] Json.asInteger
      <*> ms.optional ["name"] [] Json.asText
      <*> ms.optional ["description"] none (Checked.nullable Json.asText)
      <*> ms.optional ["post_history"] none (Checked.nullable Json.asText)
      <*> ms.optional ["card_data"] ['\x7b', '\x7d'] Json.asText

/-- The document of a character. -/
def toJson (c : Character) : Json :=
  .obj [("id", .int c.id), ("name", .str c.name), ("description", .ofText? c.description),
    ("post_history", .ofText? c.postHistory), ("card_data", .str c.cardText)]

/-- **The profile of a character**, with a scenario from outside or without. -/
def profile (c : Character) (scenario : Option Text) : Except Card.Fault Profile :=
  (Card.read c.cardText).map fun card =>
    { id := c.id
      name := c.name.orElse (card.name.orElse "Character")
      description := Text.given c.description card.description
      personality := card.personality
      scenario := Text.given scenario card.scenario
      exampleDialogue := card.exampleDialogue
      systemPrompt := card.systemPrompt
      postHistory := Text.given c.postHistory card.postHistory }

/-- A character in a cast list, with its card. -/
def introductionWith (c : Character) (card : Card) : Text :=
  let description := Text.given c.description card.description
  c.name ++ [':']
    ++ (if description.isEmpty then [] else ' ' :: description)
    ++ (if card.personality.isEmpty then [] else " Personality: ".toList ++ card.personality)

/-- **A character in a cast list**: the name, the description and the personality. A broken card
is passed over, so that it does not keep the others from being introduced. -/
def introduction (c : Character) : Except Card.Fault Text :=
  match Card.read c.cardText with
  | .ok card => .ok (c.introductionWith card)
  | .error f => if f.isOfCard then .ok (c.introductionWith {}) else .error f

end Character

end Roleplay
