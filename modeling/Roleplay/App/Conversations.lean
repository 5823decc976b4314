import Roleplay.App.Basic

/-!
# What a user does in a conversation

Each action looks up the conversation and its character, has something generated, stores the result
and tells the subscribers. A conversation or character that is not there fails before anything is
stored or told.

## Main definitions

* `App.sendMessage`, `App.impersonate`, `App.narrate`, `App.narrateScene`, `App.refreshWorld`
-/

namespace Roleplay.App

/-- The conversation of an id, which must be there. -/
def requireConversation (id : Option Int) : Action Conversation := do
  match ← Action.look (·.conversation? id) with
  | some c => return c
  | none => throw (.unknownConversation id)

/-- The conversation of an id and its character: the given one, or else the primary one. -/
def load (id : Option Int) (character : Option Int) : Action (Conversation × Character) := do
  let conversation ← requireConversation id
  let found ← Action.look fun s =>
    if character.isSome then s.character? character else s.primaryCharacter? id
  match found with
  | some c => return (conversation, c)
  | none => throw (.noCharacter id)

/-- A message stored, and told to the subscribers. -/
def storeMessage (conversation : Int) (role : Role) (content : Text) (sender : Option Text) :
    Action Message := do
  let stored ← Action.change (·.addMessage (some conversation) (some role.word) (some content) sender)
  let message : Message := ⟨role, content, sender, some stored.id, some conversation⟩
  Action.emit conversation (.newMessage message)
  return message

/-- The settings of a purpose. -/
def settingsOf (a : App) (p : Purpose) : Except Failure Settings :=
  a.settings.get a.files p.word

/-- A generation with the settings of replies, which may fail to be read. -/
def withSettings {α : Type} (f : App → Settings → Trace α) : Action α :=
  Action.generate fun a => do
    let settings ← .ofExcept (a.settingsOf .chat)
    f a settings

/-- **Sending a message** and getting the character's reply. The message is stored before the
reply is generated, and stays when that fails. -/
def sendMessage (id : Option Int) (content : Text) : Action Message := do
  let (conversation, character) ← load id none
  let _ ← storeMessage conversation.id .user content none
  let history ← Action.look (·.history id)
  let result ← Action.whileTyping conversation.id (withSettings fun a settings =>
    generateReply a.collaborators history character settings (some "chat") id conversation.scenario
      (some conversation.user))
  storeMessage conversation.id .assistant result.content (some character.name)

/-- **A message suggested** in the user's name; nothing is stored. -/
def impersonate (id : Option Int) (style : Option Text) : Action Text := do
  let (conversation, character) ← load id none
  let history ← Action.look (·.history id)
  let result ← withSettings fun a settings =>
    generateImpersonation a.collaborators history character settings style (some conversation.user)
      id conversation.scenario
  return result.content

/-- The kind of narration that needs an item. -/
def itemNarration : Text := "look_item"

/-- **Narrating** about a character. -/
def narrate (id : Option Int) (kind : Text) (item : Option ItemContext) (character : Option Int) :
    Action Message := do
  if kind = itemNarration ∧ item = none then throw .noItem
  let (conversation, character) ← load id character
  let history ← Action.look (·.history id)
  let result ← Action.whileTyping conversation.id (withSettings fun a settings =>
    generateNarration a.collaborators history character settings kind id item conversation.scenario
      (some conversation.user))
  storeMessage conversation.id .narrator result.content (some narratorName)

/-- **Narrating about a scene**, for which no character need be there. -/
def narrateScene (id : Option Int) (kind : Text) (context : SceneContext) : Action Message := do
  let conversation ← requireConversation id
  let result ← Action.whileTyping conversation.id (Action.generate fun a =>
    generateSceneNarration a.collaborators (some a.sceneSource) (some conversation.user) id kind
      context)
  storeMessage conversation.id .narrator result.content (some narratorName)

/-- The number of messages from which a state of the world is made. -/
def worldHistory : Int := 10

/-- **Making the state of the world anew** from the newest messages. -/
def refreshWorld (id : Option Int) : Action WorldState := do
  let (conversation, character) ← load id none
  let addressee ← Action.look (·.addressee (some conversation.user))
  let recent ← Action.look (·.recent id worldHistory)
  let state ← Action.generate fun a =>
    generateAndKeepWorld a.collaborators (a.settingsOf .decision) id character addressee.name
      (transcript recent addressee.name (some character.name))
      (.ofNames (some character.name) (some addressee.name)) conversation.scenario
  Action.emit conversation.id (.worldState state)
  return state

end Roleplay.App
