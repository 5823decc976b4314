import Roleplay.Failure
import Roleplay.Message
import Roleplay.Settings

/-!
# Completions

What is asked of a model and what it answers, whoever provides it.

## Main definitions

* `Request`, `Request.ofSettings`, `Request.ofJson`, `Request.toJson`: what is asked
* `Reply`, `Usage`: what is answered, and the tokens it took
* `Gateway`: an answer for each request, or why there is none
-/

namespace Roleplay

/-- **What is asked of a model.** -/
structure Request where
  messages : List Message
  model : Option Text := none
  temperature : Binary64 := tenths 7
  maxTokens : Int := 500
  topP : Option Binary64 := none
  user : Option Int := none
  reasoning : Bool := false
deriving DecidableEq, Repr

namespace Request

/-- **The request of settings**, in the name of a user. -/
def ofSettings (messages : List Message) (s : Settings) (user : Option Int) : Request :=
  { messages, model := s.model, temperature := s.temperature, maxTokens := s.maxTokens,
    topP := some s.topP, user, reasoning := s.reasoning }

/-- A request with given messages from the document of its other fields. -/
def ofJson (messages : List Message) : Json → Checked Request :=
  Checked.object fun ms =>
    mk messages <$> ms.optional ["model"] none (Checked.nullable Json.asText)
      <*> ms.optional ["temperature"] (tenths 7) Json.asNumber
      <*> ms.optional ["max_tokens"] 500 Settings.asPositive
      <*> ms.optional ["top_p"] none (Checked.nullable Json.asNumber)
      <*> ms.optional ["user_id"] none (Checked.nullable Json.asInteger)
      <*> ms.optional ["reasoning"] false Json.asFlag

/-- The document of a request. -/
def toJson (r : Request) : Json :=
  .obj [("messages", .arr (r.messages.map Message.prompt)), ("model", .ofText? r.model),
    ("temperature", .float r.temperature), ("max_tokens", .int r.maxTokens),
    ("top_p", r.topP.elim .null .float), ("user_id", .ofInt? r.user),
    ("reasoning", .bool r.reasoning)]

end Request

/-- **The tokens that a reply took**, as far as they are told. -/
structure Usage where
  prompt : Option Int := none
  completion : Option Int := none
  total : Option Int := none
deriving DecidableEq, Repr

namespace Usage

/-- The document of a usage. -/
def toJson (u : Usage) : Json :=
  .obj [("prompt_tokens", .ofInt? u.prompt), ("completion_tokens", .ofInt? u.completion),
    ("total_tokens", .ofInt? u.total)]

/-- A usage from its document. -/
def ofJson : Json → Checked Usage :=
  let count := fun (k : Text) (ms : Members) =>
    ms.optional [k] none (Checked.nullable Json.asInteger)
  Checked.object fun ms =>
    mk <$> count "prompt_tokens" ms <*> count "completion_tokens" ms <*> count "total_tokens" ms

end Usage

/-- **What a model answers.** -/
structure Reply where
  content : Text
  reasoning : Option Text := none
  model : Text := []
  usage : Option Usage := none
deriving DecidableEq, Repr

namespace Reply

/-- The document of a reply. -/
def toJson (r : Reply) : Json :=
  .obj [("content", .str r.content), ("reasoning", .ofText? r.reasoning), ("model", .str r.model),
    ("usage", match r.usage with
      | none => .null
      | some u => u.toJson)]

/-- A reply from its document. -/
def ofJson : Json → Checked Reply :=
  Checked.object fun ms =>
    mk <$> ms.required ["content"] Json.asText
      <*> ms.optional ["reasoning"] none (Checked.nullable Json.asText)
      <*> ms.optional ["model"] [] Json.asText
      <*> ms.optional ["usage"] none (Checked.nullable Usage.ofJson)

end Reply

/-- **A gateway**: an answer for each request, or why there is none. -/
abbrev Gateway := Request → Except Failure Reply

end Roleplay
