import Roleplay.Template.Conditional

/-!
# Built-in templates

The templates that stand for those an author has not written.

## Main definitions

* `Prompt.slot name`: the placeholder of a variable
* `Prompt.chat`, `Prompt.impersonation`, `Prompt.narration`, `Prompt.worldState`: the templates
* `Prompt.narrationKinds`, `Prompt.impersonationStyles`: the names that an author may use
-/

namespace Roleplay.Prompt

/-- The placeholder of a variable. -/
def slot (name : Text) : Text :=
  Template.opening ++ name ++ Template.closing

/-- Pieces one after another. -/
def pieces (ts : List Text) : Text :=
  ts.flatten

/-- The template of a reply. -/
def chat : Text :=
  pieces ["You are ", slot "char", ".\n\n", slot "description", "\n\nPersonality: ",
    slot "personality", "\n\nScenario: ", slot "scenario", "\n\nWrite your next reply as ",
    slot "char", " in this roleplay chat with ", slot "user", "."]

/-- The template of a message in the user's name. -/
def impersonation : Text :=
  pieces ["Write the next message as ", slot "user", " in this roleplay chat with ", slot "char",
    ".\n\nStay in character as ", slot "user",
    ". Write a natural response that fits the conversation flow."]

/-- The style of a message in the user's name when none is given. -/
def plainStyle : Text := "impersonate"

/-- The styles of a message in the user's name. -/
def impersonationStyles : List Text :=
  [plainStyle, "serious", "sarcastic", "flirty"]

/-- The narration of what happens, which stands for every unknown kind. -/
def plainNarration : Text :=
  "You are a narrator. Briefly describe what is happening in the scene. Keep it to 2-3 sentences."

/-- The templates of narration by its kinds. -/
def narrations : List (Text × Text) :=
  [("look_character", pieces ["You are a narrator. Briefly describe ", slot "char",
      "'s current appearance and expression. Keep it to 2-3 sentences."]),
    ("look_scene",
      "You are a narrator. Briefly describe the current environment. Keep it to 2-3 sentences."),
    ("narrate", plainNarration),
    ("look_item", pieces ["You are a narrator. Briefly describe ", slot "item_owner", "'s ",
      slot "item_name", " in detail. Keep it to 2-3 sentences."]),
    ("explore_scene", pieces ["You are a narrator. ", slot "user",
      " looks around and explores the environment. Describe something interesting they notice or ",
      "discover - an object, detail, or feature of the scene they hadn't focused on before. ",
      "Keep it to 2-3 sentences."]),
    ("enter_scene", pieces ["You are a narrator. ", slot "character_name",
      " has just entered the scene. Briefly describe their entrance in 1-2 sentences."]),
    ("leave_scene", pieces ["You are a narrator. ", slot "character_name",
      " is leaving the scene. Briefly describe their departure in 1-2 sentences."]),
    ("scene_intro", pieces ["You are a narrator. The following characters are present: ",
      slot "character_names", ". Describe the scene opening in 2-3 sentences."])]

/-- The kinds of narration. -/
def narrationKinds : List Text :=
  narrations.map (·.1)

/-- The template of a kind of narration. -/
def narration (kind : Text) : Text :=
  (narrations.lookup kind).getD plainNarration

/-- The template of the state of the world. -/
def worldState : Text :=
  pieces ["Generate the current state for ", slot "char", " and ", slot "user", ".\n\nCharacter: ",
    slot "char", "\nDescription: ", slot "description", "\nScenario: ", slot "scenario",
    "\n\nRecent conversation:\n", slot "history", "\n\nOutput format:\n", slot "char",
    ":\nmood: [current emotional state]\nposition: [physical position/location]\nclothes:\n",
    "  [item]: [description]\n\n", slot "user",
    ":\nposition: [physical position/location]\nclothes:\n  [item]: [description]\n\nGuidelines:\n",
    "- Mood: Brief emotional state based on recent events (cheerful, anxious, relaxed, etc.)\n",
    "- Position: Physical location and posture/stance\n",
    "- Clothes: 3-5 items, be specific with colors and styles\n",
    "- Leave a blank line between the two sections\n",
    "- Base the state on what's happening in the conversation"]

end Roleplay.Prompt
