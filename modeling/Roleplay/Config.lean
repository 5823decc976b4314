import Roleplay.Connector.Basic
import Roleplay.Files.Path

/-!
# Configuration

Where everything is and which provider is used, read from the environment. What is not said lies in
the data directory.

## Main definitions

* `Config`, `Config.ofEnvironment`
-/

namespace Roleplay

/-- **The configuration.** -/
structure Config where
  data : Path
  prompts : Path
  scenarios : Path
  settings : Path
  logs : Path
  database : Path
  provider : Text
  logLevel : Text
  promptsKept : Int
deriving DecidableEq, Repr

namespace Config

/-- A path of the environment, or one in the data directory. -/
def pathOr (env : Environment) (data : Path) (key name : Text) : Path :=
  match env.get? key with
  | some t => .ofText t
  | none => data.join name

/-- How many prompts are kept: a numeral, five without one. -/
def keptOf (env : Environment) : Except Failure Int :=
  match env.get? "RPCHAT_PROMPT_LOG_KEEP" with
  | none => .ok 5
  | some t => (Numeral.integer t).mapError .numeral

/-- The fields that fail: an unknown provider, or less than one prompt kept. -/
def failing (provider : Text) (kept : Int) : List FieldPath :=
  let known := provider = "openai".toList ∨ provider = "gemini".toList
  let faults : List (Bool × Text) := [(!known, "llm_provider"), (kept < 1, "prompt_log_keep")]
  (faults.filter (·.1)).map fun f => [f.2]

/-- **The configuration of an environment.** -/
def ofEnvironment (env : Environment) : Except Failure Config := do
  let text := fun (key default : Text) => (env.get? key).getD default
  let data := Path.ofText (text "RPCHAT_DATA_DIR" "data")
  let provider := (text "RPCHAT_LLM_PROVIDER" "openai").lower
  let kept ← keptOf env
  let fields := failing provider kept
  if !fields.isEmpty then throw (.ofFields fields)
  return {
    data
    prompts := pathOr env data "RPCHAT_PROMPTS_DIR" "prompts"
    scenarios := pathOr env data "RPCHAT_SCENARIOS_DIR" "scenarios"
    settings := pathOr env data "RPCHAT_SETTINGS_DIR" "settings"
    logs := pathOr env data "RPCHAT_LOG_DIR" "logs"
    database := pathOr env data "RPCHAT_DB_PATH" "rpchat.db"
    provider
    logLevel := text "RPCHAT_LOG_LEVEL" "INFO"
    promptsKept := kept }

end Config

end Roleplay
