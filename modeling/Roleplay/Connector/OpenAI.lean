import Roleplay.Connector.Answer

/-!
# The OpenAI service

A request as a call of the chat completions of OpenAI, or of a server that speaks like it, and its
answer as a reply. Narration goes out as text of the model's own.

## Main definitions

* `OpenAI`: the connection
* `OpenAI.Call`, `OpenAI.call`: what is sent for a request
* `OpenAI.reply`: the reply of an answer
* `OpenAI.complete`: both
-/

namespace Roleplay

/-- **A connection**, with the model of requests that name none. -/
structure OpenAI where
  model : Option Text
deriving DecidableEq, Repr

namespace OpenAI

/-- **What is sent** for a request. -/
structure Call where
  model : Text
  messages : List (Text × Text)
  temperature : Binary64
  maxTokens : Int
  topP : Option Binary64
  user : Option Text
  reasoning : Bool
deriving DecidableEq, Repr

/-- The role a message is sent with. -/
def roleOf : Role → Text
  | .narrator => Role.assistant.word
  | r => r.word

/-- **The call of a request**, when some model is known. -/
def call (c : OpenAI) (r : Request) : Except Failure Call :=
  let model := Text.given r.model (Text.orEmpty c.model)
  if model.isEmpty then .error .noModel
  else .ok
    { model
      messages := r.messages.map fun m => (roleOf m.role, m.content)
      temperature := r.temperature
      maxTokens := r.maxTokens
      topP := r.topP
      user := r.user.map Text.ofInt
      reasoning := r.reasoning }

/-- **The reply of an answer**: its first choice. The reasoning goes by two names. -/
def reply (model : Text) (v : Json) : Except Failure Reply := do
  let choices ← Answer.member v "choices"
  if !Answer.isGiven choices then throw (.gateway "Completion returned no choices")
  let message ← Answer.member (← Answer.first choices) "message"
  let reasoning := Answer.orElse (Answer.member? message "reasoning")
    (Answer.orElse (Answer.member? message "reasoning_content") .null)
  let usage ← Answer.usage (← Answer.member v "usage") "prompt_tokens" "completion_tokens"
    "total_tokens"
  let content ← Answer.member message "content"
  let served ← Answer.member v "model"
  Answer.reply (Answer.orElse content (.str [])) reasoning (Answer.orElse served (.str model)) usage

/-- A failed call, as a failure of the gateway. -/
def failed (t : Text) : Failure :=
  .gateway ("Completion request failed: " ++ t)

/-- **A request completed**: the call that is sent for it, if one is, and the reply of the answer
to that call. -/
def complete (c : OpenAI) (r : Request) (answer : Except Text Json) :
    Option Call × Except Failure Reply :=
  match c.call r with
  | .error e => (none, .error e)
  | .ok call =>
    (some call, match answer with
      | .error t => .error (failed t)
      | .ok v => reply call.model v)

end OpenAI

end Roleplay
