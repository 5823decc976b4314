import Roleplay.App.Event
import Roleplay.Generation.Narration
import Roleplay.Generation.Reply
import Roleplay.Generation.WorldState
import Roleplay.Notifier.Basic
import Roleplay.Scenario.Directory
import Roleplay.Settings.File
import Roleplay.Store.Characters
import Roleplay.Store.LoreEntries
import Roleplay.Store.World

/-!
# The application

The store, the files and the notifier together, with the gateway to a model. An action changes the
application and answers or fails; what it has changed before it fails stays changed.

A generation is a trace over collaborators that only look things up. What it asked to be done is
done to the application afterwards, call by call.

The application keeps a journal. Whatever stores a message, tells subscribers something, begins a
generation or makes a call for one notes that behind what it has noted before.

## Main definitions

* `Happening`: what is noted
* `App`: the application
* `App.collaborators`, `App.sceneSource`: whom its generations ask
* `App.withStore`, `App.tell`, `App.perform`: what is done to the application, and noted
* `Action`, `Action.generate`, `Action.emit`, `Action.whileTyping`: actions and their parts
-/

namespace Roleplay

/-- **What happens in the course of actions**: a message is stored, subscribers are told an event, a
generation begins, and a call is made for it. -/
inductive Happening
  | stored (m : StoredMessage)
  | told (conversation : Int) (e : Event)
  | began
  | asked (c : Call)

/-- **The application.** The calls of its generations are kept in their order, and so is all that
happens in it. -/
structure App where
  store : Store
  files : FileTree
  notifier : Notifier Event := {}
  log : PromptLog
  templates : TemplateDirectory
  settings : SettingsFile
  scenarios : ScenarioDirectory
  moment : Moment
  gateway : Gateway
  calls : List Call := []
  journal : List Happening := []

/-- The messages that another store has and this one has not; new ones stand behind all others. -/
def Store.newMessages (s s' : Store) : List StoredMessage :=
  s'.messages.rows.drop s.messages.rows.length

namespace App

/-- **Whom the generations of an application ask.** -/
def collaborators (a : App) : Collaborators where
  addressee := a.store.addressee
  templates := a.templates.source a.files
  world := some a.store.worldState?
  keepWorld := some fun id state => (a.store.updateWorld id (some state)).map fun _ => ()
  lore := some fun user character turns => a.store.loreContext user (some character) turns
  log := some fun _ => some (a.log.idOf a.moment)
  gateway := a.gateway

/-- Where the narrator of a scene looks things up. -/
def sceneSource (a : App) : SceneSource where
  settings := a.settings.get a.files Purpose.content.word
  conversation := a.store.conversation?
  cast := a.store.activeCast
  recent := fun id => a.store.recent id 10

/-- Some happenings noted, behind those before. -/
def note (a : App) (j : List Happening) : App :=
  { a with journal := a.journal ++ j }

/-- **The application with another store**, its new messages noted. -/
def withStore (a : App) (s : Store) : App :=
  { a with store := s }.note ((a.store.newMessages s).map .stored)

@[simp] theorem store_withStore (a : App) (s : Store) : (a.withStore s).store = s := rfl

/-- **Subscribers of a conversation told** an event, and that noted. -/
def tell (a : App) (conversation : Int) (e : Event) : App :=
  { a with notifier := (a.notifier.publish conversation e).1 }.note [.told conversation e]

/-- What a call changes in the application. -/
def effect (a : App) : Call → App
  | .logPrompt p =>
    let (log, files, _) := a.log.writePrompt a.files a.moment p
    { a with log, files }
  | .logResponse id r => { a with files := a.log.writeResponse a.files a.moment id r }
  | .keepWorld id state =>
    match a.store.updateWorld id (some state) with
    | .ok store => { a with store }
    | .error _ => a
  | _ => a

/-- **A call done to the application**, and noted. -/
def perform (a : App) (c : Call) : App :=
  { a.effect c with calls := a.calls ++ [c] }.note [.asked c]

end App

/-- **An action**: it changes the application, and answers or fails. -/
abbrev Action (α : Type) := ExceptT Failure (StateM App) α

namespace Action

variable {α : Type}

/-- What the store answers. -/
def look (f : Store → Except Failure α) : Action α := do
  match f (← get).store with
  | .ok a => return a
  | .error e => throw e

/-- A statement that changes the store, unless it fails. -/
def change (f : Store → Except Failure (Store × α)) : Action α := do
  let app ← get
  match f app.store with
  | .ok (store, a) =>
    set (app.withStore store)
    return a
  | .error e => throw e

/-- **Telling subscribers** of a conversation. -/
def emit (conversation : Int) (e : Event) : Action Unit :=
  modify fun app => app.tell conversation e

/-- **A generation** of the application: it begins, what it asks for is done, and its outcome is
given. -/
def generate (t : App → Trace α) : Action α := do
  let app ← get
  let trace := t app
  set (trace.calls.foldl App.perform (app.note [.began]))
  match trace.outcome with
  | .ok a => return a
  | .error e => throw e

/-- **An action during which someone writes**: subscribers are told before it and after it, also
when it fails. -/
def whileTyping (conversation : Int) (act : Action α) : Action α := do
  emit conversation (.typing true)
  let outcome ← ExceptT.lift act.run
  emit conversation (.typing false)
  match outcome with
  | .ok a => return a
  | .error e => throw e

end Action

end Roleplay
