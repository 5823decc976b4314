import Roleplay.Connector.Answer

/-!
# The Gemini service

A request as a call of the content generation of Gemini, and its answer as a reply. System messages
go out apart from the others; where nothing else is left, the model is asked to proceed.

## Main definitions

* `Gemini`: the connection
* `Gemini.Call`, `Gemini.call`: what is sent for a request
* `Gemini.reply`: the reply of an answer
* `Gemini.complete`: both
-/

namespace Roleplay

/-- **A connection**, with the model of requests that name none. -/
structure Gemini where
  model : Text
deriving DecidableEq, Repr

namespace Gemini

/-- **What is sent** for a request. -/
structure Call where
  model : Text
  contents : List (Text × List Text)
  system : Option (List Text)
  temperature : Binary64
  topP : Option Binary64
  maxTokens : Int
  thoughts : Bool
  safety : List (Text × Text)
deriving DecidableEq, Repr

/-- The filters of the service, all of them off. -/
def safety : List (Text × Text) :=
  [("HARM_CATEGORY_HARASSMENT", "BLOCK_NONE"), ("HARM_CATEGORY_HATE_SPEECH", "BLOCK_NONE"),
    ("HARM_CATEGORY_SEXUALLY_EXPLICIT", "BLOCK_NONE"),
    ("HARM_CATEGORY_DANGEROUS_CONTENT", "BLOCK_NONE")]

/-- The role a message is sent with. -/
def roleOf : Role → Text
  | .user => "user"
  | _ => "model"

/-- The system messages as one text. -/
def systemText (ms : List Message) : Text :=
  Text.join ['\n', '\n'] ((ms.filter (·.role = .system)).map (·.content))

/-- The other messages, or a request to proceed when there are none. -/
def contents (ms : List Message) : List (Text × List Text) :=
  let others := ms.filter (·.role ≠ .system)
  if others.isEmpty then [(roleOf .user, ["Please proceed."])]
  else others.map fun m => (roleOf m.role, [m.content])

/-- **The call of a request.** -/
def call (c : Gemini) (r : Request) : Call :=
  { model := Text.given r.model c.model
    contents := contents r.messages
    system := if (systemText r.messages).isEmpty then none else some [systemText r.messages]
    temperature := r.temperature
    topP := r.topP
    maxTokens := r.maxTokens
    thoughts := r.reasoning
    safety }

/-- The text of an answer, apart from its thoughts. -/
structure Gathered where
  content : Text := []
  thoughts : Text := []

/-- What is gathered with a part of an answer more. -/
def gather (g : Gathered) (part : Json) : Except Failure Gathered := do
  let text ← Answer.member part "text"
  if !Answer.isGiven text then return g
  let isThought := Answer.isGiven (← Answer.member part "thought")
  match text with
  | .str t =>
    if isThought then return { g with thoughts := g.thoughts ++ t }
    else return { g with content := g.content ++ t }
  | _ => throw .wrongKind

/-- The parts of the first candidate, when it has some. -/
def parts? (v : Json) : Except Failure (Option Json) := do
  let candidates ← Answer.member v "candidates"
  if !Answer.isGiven candidates then return none
  let content ← Answer.member (← Answer.first candidates) "content"
  if !Answer.isGiven content then return none
  let parts ← Answer.member content "parts"
  return if Answer.isGiven parts then some parts else none

/-- A prompt that was blocked is a failure. -/
def checkFeedback (v : Json) : Except Failure Unit := do
  let feedback ← Answer.member v "prompt_feedback"
  if !Answer.isGiven feedback then return ()
  let reason ← Answer.member feedback "block_reason"
  if Answer.isGiven reason then throw (.gateway ("Gemini blocked the prompt: " ++ reason.shown))

/-- **The reply of an answer**: the parts of its first candidate, thoughts apart from text. -/
def reply (model : Text) (v : Json) : Except Failure Reply := do
  let gathered ← match ← parts? v with
    | some parts => (← Answer.parts parts).foldlM gather {}
    | none => do
      checkFeedback v
      pure {}
  let usage ← Answer.usage (← Answer.member v "usage_metadata") "prompt_token_count"
    "candidates_token_count" "total_token_count"
  let served ← Answer.member v "model_version"
  let reasoning := if gathered.thoughts.isEmpty then .null else .str gathered.thoughts
  Answer.reply (.str gathered.content) reasoning (Answer.orElse served (.str model)) usage

/-- A failed call, as a failure of the gateway. -/
def failed (t : Text) : Failure :=
  .gateway ("Completion request failed: " ++ t)

/-- **A request completed**: the call that is sent for it and the reply of the answer. -/
def complete (c : Gemini) (r : Request) (answer : Except Text Json) :
    Call × Except Failure Reply :=
  let call := c.call r
  (call, match answer with
    | .error t => .error (failed t)
    | .ok v => reply call.model v)

end Gemini

end Roleplay
