import Roleplay.App.Conversations
import Roleplay.App.Opening
import Roleplay.CommandLine.Command
import Roleplay.Config
import Roleplay.Logging
import Roleplay.Store.File

/-!
# Running a command

A run reads the configuration from the environment, connects to the provider, opens the store and
does what a command says. Whatever comes of it, the changed files and the store are kept. A failure
is one line of the log and a status.

## Main definitions

* `Surroundings`: what a run finds
* `Report`: what it leaves behind
* `Command.action`: what a command does, and the text that it prints
* `Surroundings.perform`, `Surroundings.run`: the run of an invocation, and of arguments
-/

namespace Roleplay

open CommandLine

/-- **What a run finds**: the environment, the files, the time, and a way to connect to a provider
by its name. -/
structure Surroundings where
  environment : Environment
  files : FileTree
  moment : Moment
  connect : Text → Except Failure Gateway

/-- **What a run leaves behind**: its status, what it printed, the lines of errors in the log, what
it asked of others, the files, and a failure that nobody expected. -/
structure Report where
  files : FileTree
  status : Nat := 0
  output : Text := []
  errors : List Text := []
  calls : List Call := []
  unexpected : Option Failure := none
  advice : Option Advice := none

/-- The requests that a run made. -/
def Report.requests (r : Report) : List Request :=
  r.calls.filterMap fun c =>
    match c with
    | .request q => some q
    | _ => none

namespace Command

/-- A line of what is printed. -/
def line (t : Text) : Text :=
  t ++ ['\n']

/-- What is printed of an opening. -/
def openingText (o : Opening) : Text :=
  let greeting := o.greeting.elim [] fun g => line (line (o.character ++ ": ".toList ++ g))
  greeting ++ line
    ("Conversation ".toList ++ Text.ofInt o.conversation ++ " created with ".toList ++ o.character
      ++ ['.'])

/-- The sender of a message as it is printed. -/
def senderOf (m : Message) : Text :=
  m.sender.getD "None"

/-- The narrations about a whole scene. -/
def sceneNarrations : List Text :=
  ["explore_scene", "enter_scene", "leave_scene", "scene_intro"]

/-- A message sent. Without a text nothing can be stored. -/
def send (conversation : Int) (message : Option Text) : Action Message :=
  match message with
  | some t => App.sendMessage (some conversation) t
  | none => do
    let _ ← App.load (some conversation) none
    throw (.store (.notStorable 3))

/-- A narration about a scene or about a character. -/
def tell (conversation : Int) (kind : Text) (item : Option ItemContext) (character : Option Int) :
    Action Message :=
  if kind ∈ sceneNarrations then App.narrateScene (some conversation) kind {}
  else App.narrate (some conversation) kind item character

/-- **What a command does**, and the text that it prints. -/
def action : Command → Action Text
  | new card user scenario => do
    return openingText (← App.openConversation card user scenario)
  | chat conversation message => do
    let m ← send conversation message
    return line (senderOf m ++ ": ".toList ++ m.content)
  | impersonate conversation style => do
    return line (← App.impersonate (some conversation) (some style))
  | narrate conversation kind item character => do
    let m ← tell conversation kind item character
    return line ('[' :: senderOf m ++ "] ".toList ++ m.content)
  | world conversation => do
    return line ((← App.refreshWorld (some conversation)).sheet (.ofNames none none))

end Command

/-- The application of a configuration. -/
def Config.app (c : Config) (s : Surroundings) (files : FileTree) (store : Store)
    (gateway : Gateway) : App where
  store
  files
  notifier := Notifier.start {}
  log := { directory := c.logs, keep := c.promptsKept }
  templates := ⟨c.prompts⟩
  settings := ⟨c.settings⟩
  scenarios := ⟨c.scenarios⟩
  moment := s.moment
  gateway

namespace Surroundings

/-- The level of errors. -/
def errorLevel : Int := 40

/-- Whether errors are shown at the level that the arguments or the environment choose. -/
def showsErrors (s : Surroundings) (verbose : Bool) : Bool :=
  let level := if verbose then "DEBUG".toList else (s.environment.get? "RPCHAT_LOG_LEVEL").getD "INFO"
  (LogSetup.configure (.name level)).level ≤ errorLevel

/-- The report of a failure. -/
def failed (s : Surroundings) (i : Invocation) (files : FileTree) (calls : List Call)
    (e : Failure) : Report :=
  let error := i.command.verb.word ++ " failed: ".toList ++ e.message
  if e.isExpected then
    { files, calls, status := 1, errors := if s.showsErrors i.verbose then [error] else [] }
  else { files, calls, status := 1, unexpected := some e }

/-- What a run needs before anything is opened: the configuration and the connection. -/
def prepare (s : Surroundings) : Except Failure (Config × Gateway) := do
  let config ← Config.ofEnvironment s.environment
  return (config, ← s.connect config.provider)

/-- **The run of an invocation.** -/
def perform (s : Surroundings) (i : Invocation) : Report :=
  match s.prepare with
  | .error e => s.failed i s.files [] e
  | .ok (config, gateway) =>
    let storeFile : StoreFile := ⟨config.database⟩
    match storeFile.open s.files with
    | (files, .error e) => s.failed i files [] e
    | (files, .ok store) =>
      let (outcome, app) := i.command.action.run (config.app s files store gateway)
      let files := storeFile.save app.store app.files
      match outcome with
      | .error e => s.failed i files app.calls e
      | .ok output => { files, output, calls := app.calls }

/-- The variables of the environment that a run looks at. -/
def environmentNames : List Text :=
  ["RPCHAT_DATA_DIR", "RPCHAT_PROMPTS_DIR", "RPCHAT_SCENARIOS_DIR", "RPCHAT_SETTINGS_DIR",
    "RPCHAT_LOG_DIR", "RPCHAT_DB_PATH", "RPCHAT_LLM_PROVIDER", "RPCHAT_LOG_LEVEL",
    "RPCHAT_PROMPT_LOG_KEEP", "OPENAI_API_KEY", "OPENAI_API_MODEL", "GEMINI_API_KEY",
    "GEMINI_API_MODEL"]

/-- The files and directories that a run looks at. -/
def paths (environment : Environment) (arguments : List Text) : List Path :=
  let card := match Invocation.ofArguments arguments with
    | .ok ⟨_, .new card _ _⟩ => [card]
    | _ => []
  match Config.ofEnvironment environment with
  | .error _ => card
  | .ok c => card ++ [c.prompts, c.scenarios, c.settings, c.logs, c.database.parent, c.database]

/-- **The run of arguments.** -/
def run (s : Surroundings) (arguments : List Text) : Report :=
  match Invocation.ofArguments arguments with
  | .ok i => s.perform i
  | .error .help => { files := s.files, advice := some .help }
  | .error .misuse => { files := s.files, status := 2, advice := some .misuse }

end Surroundings

end Roleplay
