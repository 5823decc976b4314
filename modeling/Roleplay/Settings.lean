import Roleplay.Json.Lenient

/-!
# Generation settings

How a model is asked: which one, and with which sampling. A document gives a setting under its own
name or under the name it is stored by; of both the stored one counts. A setting that is missing
has a default.

## Main definitions

* `Settings`: the settings
* `Settings.ofJson`: from a document
* `Settings.stored`: the document they are stored as
* `Settings.storedName`: the name that a setting is stored by
* `Purpose`, `Purpose.defaults`: what settings are for, and the settings of each purpose
-/

namespace Roleplay

/-- The binary number nearest to `n` tenths. -/
def tenths (n : Nat) : Binary64 :=
  .ofFraction false n 10

/-- **Generation settings.** -/
structure Settings where
  provider : Text := "openai"
  model : Option Text := none
  temperature : Binary64 := tenths 7
  maxTokens : Int := 500
  topP : Binary64 := tenths 10
  frequencyPenalty : Binary64 := tenths 0
  presencePenalty : Binary64 := tenths 0
  contextWindow : Int := 8000
  reasoning : Bool := false
  user : Option Int := none
deriving DecidableEq, Repr

namespace Settings

/-- The own names of settings with the names they are stored by, where these differ. -/
def storedNames : List (Text × Text) :=
  [("max_tokens", "maxTokens"), ("top_p", "topP"), ("frequency_penalty", "frequencyPenalty"),
    ("presence_penalty", "presencePenalty"), ("context_window", "contextWindow"),
    ("reasoning_enabled", "reasoningEnabled"), ("user_id", "userId")]

/-- The name that a setting is stored by. -/
def storedName (name : Text) : Text :=
  (storedNames.lookup name).getD name

/-- The names of a setting, the one it is stored by first. -/
def namesOf (name : Text) : List Text :=
  [storedName name, name]

/-- A positive whole number. -/
def asPositive (v : Json) : Checked Int :=
  v.asInteger.ensure (0 < ·)

/-- A binary number from zero to `high`. -/
def asUpTo (high : Int) (v : Json) : Checked Binary64 :=
  v.asNumber.ensure (·.within 0 high)

/-- **Settings from a document.** -/
def ofJson : Json → Checked Settings :=
  Checked.object fun ms =>
    mk <$> ms.optional ["provider"] "openai" Json.asText
      <*> ms.optional ["model"] none (Checked.nullable Json.asText)
      <*> ms.optional ["temperature"] (tenths 7) (asUpTo 2)
      <*> ms.optional (namesOf "max_tokens") 500 asPositive
      <*> ms.optional (namesOf "top_p") (tenths 10) (asUpTo 1)
      <*> ms.optional (namesOf "frequency_penalty") (tenths 0) Json.asNumber
      <*> ms.optional (namesOf "presence_penalty") (tenths 0) Json.asNumber
      <*> ms.optional (namesOf "context_window") 8000 Json.asInteger
      <*> ms.optional (namesOf "reasoning_enabled") false Json.asFlag
      <*> ms.optional (namesOf "user_id") none (Checked.nullable Json.asInteger)

/-- **The members that settings are stored as**; what is not set is left out. -/
def stored (s : Settings) : Members :=
  Members.present
    [("provider", .str s.provider), ("model", .ofText? s.model),
      ("temperature", .float s.temperature), ("maxTokens", .int s.maxTokens),
      ("topP", .float s.topP), ("frequencyPenalty", .float s.frequencyPenalty),
      ("presencePenalty", .float s.presencePenalty), ("contextWindow", .int s.contextWindow),
      ("reasoningEnabled", .bool s.reasoning), ("userId", .ofInt? s.user)]

end Settings

/-- **What settings are for**: replies, the state of the world, or narration of a scene. -/
inductive Purpose
  | chat
  | decision
  | content
deriving DecidableEq, Repr

namespace Purpose

/-- The word of a purpose. -/
def word : Purpose → Text
  | chat => "chat"
  | decision => "decision"
  | content => "content"

/-- The purpose with a word. -/
def ofWord? (w : Text) : Option Purpose :=
  [chat, decision, content].find? (·.word = w)

/-- The members that a purpose sets. -/
def ownMembers : Purpose → Members
  | chat => [("temperature", .float (tenths 7)), ("maxTokens", .int 500),
      ("contextWindow", .int 8000)]
  | decision => [("temperature", .float (tenths 3)), ("maxTokens", .int 200),
      ("contextWindow", .int 4000)]
  | content => [("temperature", .float (tenths 8)), ("maxTokens", .int 2000),
      ("contextWindow", .int 16000)]

/-- **The settings of a purpose** when nothing else is said. -/
def defaults : Purpose → Settings
  | chat => { temperature := tenths 7, maxTokens := 500, contextWindow := 8000 }
  | decision => { temperature := tenths 3, maxTokens := 200, contextWindow := 4000 }
  | content => { temperature := tenths 8, maxTokens := 2000, contextWindow := 16000 }

end Purpose

end Roleplay
