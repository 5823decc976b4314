import Roleplay.Generation.Assembly
import Roleplay.World.Recovery

/-!
# Generating the state of the world

A model is asked for the mood, position and clothes of everyone, and its answer is read as a world
sheet. This only decorates a conversation: an answer that tells nothing, or no answer at all, gives
a default state.

## Main definitions

* `WorldState.default`: the default state
* `generateWorld`: a state from a model
* `generateAndKeepWorld`: a state from a model, kept for a conversation

## Main results

* `WorldState.hasContent_default`: something is known in the default state
-/

namespace Roleplay

/-- The clothes of whom nothing is known. -/
def defaultClothes : Attribute :=
  ⟨"clothes", .list [⟨"top", "casual shirt"⟩, ⟨"bottom", "comfortable pants"⟩,
    ⟨"shoes", "everyday footwear"⟩]⟩

/-- The position of whom nothing is known. -/
def defaultPosition : Attribute :=
  ⟨"position", .text "standing nearby"⟩

/-- **The state when nothing could be generated.** -/
def WorldState.default : WorldState :=
  ⟨[(characterKey, ⟨[⟨"mood", .text "neutral"⟩, defaultPosition, defaultClothes]⟩),
    (userKey, ⟨[defaultPosition, defaultClothes]⟩)]⟩

/-- Something is known in the default state. -/
theorem WorldState.hasContent_default : WorldState.default.hasContent = true := by decide

/-- The prompt that asks for the state of the world. -/
def worldPrompt (template : Text) (p : Profile) (user history : Text) : Text :=
  Template.render
    [("char", .str p.name), ("user", .str user),
      ("scenario", .str (p.scenario.orElse "A casual encounter")),
      ("description", .str p.description),
      ("history", .str (Text.orElse history "(No conversation yet)"))]
    template

/-- The request for a state of the world. -/
def worldRequest (messages : List Message) (s : Settings) : Request :=
  { Request.ofSettings messages s s.user with reasoning := false }

/-- Asking the model, a failure of the gateway being no answer. -/
def askLeniently (c : Collaborators) (r : Request) : Trace (Option Reply) :=
  .call (.request r) (match c.gateway r with
    | .ok reply => .ok (some reply)
    | .error (.gateway _) => .ok none
    | .error e => .error e)

/-- **A state of the world from a model.** Without entity names the two speakers are meant. -/
def generateWorld (c : Collaborators) (settings : Except Failure Settings) (character : Character)
    (user history : Text) (names : Labels) (scenario : Option Text) : Trace WorldState := do
  let profile ← .ofExcept ((character.profile scenario).mapError .card)
  let names := if names.isEmpty then .ofNames (some profile.name) (some user) else names
  let template ← .ofExcept (Prompt.loadWorldState c.templates)
  let messages : List Message :=
    [{ role := .user, content := worldPrompt template profile user history }]
  let settings ← .ofExcept settings
  let id ← c.logPrompt { messages, tag := "world", subject := profile.name, user }
  match ← askLeniently c (worldRequest messages settings) with
  | none => return .default
  | some reply =>
    c.logResponse (nonempty id)
      { tag := "world", raw := reply.content, used := reply.content,
        details := .obj [("model", .str reply.model)] }
    return (WorldState.recoverContent? names reply.content).getD .default

/-- **A state of the world from a model, kept for a conversation.** -/
def generateAndKeepWorld (c : Collaborators) (settings : Except Failure Settings)
    (conversation : Option Int) (character : Character) (user history : Text) (names : Labels)
    (scenario : Option Text) : Trace WorldState := do
  let some keep := c.keepWorld | .ofExcept (.error .noWorldStore)
  let state ← generateWorld c settings character user history names scenario
  Trace.call (.keepWorld conversation state) (keep conversation state)
  return state

end Roleplay
