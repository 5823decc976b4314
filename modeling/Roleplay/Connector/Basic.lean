import Roleplay.Connector.Gemini
import Roleplay.Connector.OpenAI
import Roleplay.Text.Case

/-!
# Connectors

A connector to one of the services, made from the environment. A service needs its key before
anything is asked of it.

## Main definitions

* `Environment`: the variables of the environment
* `Connector`: a connection to a service
* `Connector.ofEnvironment`: the connector of a provider's name
* `Connector.gateway`: a connection as a gateway
-/

namespace Roleplay

/-- **The variables of the environment.** -/
abbrev Environment := Entries Text

/-- **A connection to a service.** -/
inductive Connector
  | openAI (c : OpenAI)
  | gemini (c : Gemini)
deriving DecidableEq, Repr

/-- A connection to OpenAI with a model, or with the one of the environment. -/
def OpenAI.ofEnvironment (env : Environment) (model : Option Text) : OpenAI :=
  let given := Text.orEmpty model
  ⟨if given.isEmpty then env.get? "OPENAI_API_MODEL" else some given⟩

/-- A connection to Gemini with a model, with the one of the environment, or the latest. -/
def Gemini.ofEnvironment (env : Environment) (model : Option Text) : Gemini :=
  ⟨Text.given model (Text.given (env.get? "GEMINI_API_MODEL") "gemini-flash-latest")⟩

namespace Connector

/-- A key of the environment, without which there is no connection. -/
def requireKey (env : Environment) (key : Text) : Except Failure Unit :=
  if (Text.orEmpty (env.get? key)).isEmpty then .error (.noKey key) else .ok ()

/-- The name of the provider that is meant: OpenAI when none is given. -/
def providerName (provider : Option Text) : Text :=
  (Text.given provider "openai").lower

/-- **The connector of a provider.** -/
def ofEnvironment (env : Environment) (provider : Option Text) : Except Failure Connector :=
  let name := providerName provider
  if name = "openai".toList then do
    requireKey env "OPENAI_API_KEY"
    return openAI (OpenAI.ofEnvironment env none)
  else if name = "gemini".toList then do
    requireKey env "GEMINI_API_KEY"
    return gemini (Gemini.ofEnvironment env none)
  else .error (.unknownProvider name)

/-- The answer of a service in the text of its document, or why there is none. -/
def answerOf (t : Text) : Except Text Json :=
  (Json.read t).mapError (·.message)

/-- **The gateway of a connection** to a service that gives an answer. -/
def gateway (c : Connector) (answer : Except Text Json) : Gateway := fun r =>
  match c with
  | openAI c => (c.complete r answer).2
  | gemini c => (c.complete r answer).2

end Connector

end Roleplay
