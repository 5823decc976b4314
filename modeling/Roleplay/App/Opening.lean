import Roleplay.App.Basic

/-!
# Opening a conversation

A conversation is opened with the character of a card file, which begins it with the greeting of
the card. Character and user are stored before the scenario is looked up, and stay when there is no
such scenario.

## Main definitions

* `Opening`: what was opened
* `App.openConversation`: the action
-/

namespace Roleplay

/-- **What was opened**: the conversation, the character and its greeting. -/
structure Opening where
  conversation : Int
  character : Text
  greeting : Option Text
deriving DecidableEq, Repr

namespace App

/-- The text of a file. -/
def readFile (p : Path) : Action Text := do
  match (← get).files.readText p with
  | .ok t => return t
  | .error f => throw (.ofText f)

/-- The card in a text. -/
def readCard (t : Text) : Action Card :=
  match Card.read t with
  | .ok card => return card
  | .error f => throw (.card f)

/-- The id of the user of a name, who is stored if need be. -/
def userNamed (name : Text) : Action Int := do
  match ← Action.look (·.userId? (some name)) with
  | some id => return id
  | none => return (← Action.change (·.createUser (some name) (some name) (some []))).id

/-- The scenario of an id between two speakers; none is meant by no id or an empty one. -/
def scenarioBetween (id : Option Text) (character user : Text) : Action (Option Text) := do
  let id := Text.orEmpty id
  if id.isEmpty then return none
  let app ← get
  match app.scenarios.get app.files id with
  | .ok (some s) => return some (insertNames s.content (some character) (some user))
  | .ok none => throw (.unknownScenario id)
  | .error e => throw e

/-- The greeting of a card as the first message of a conversation, unless it is empty. -/
def greet (conversation : Int) (card : Card) (character user : Text) : Action (Option Text) := do
  if card.greeting.isEmpty then return none
  let greeting := insertNames card.greeting (some character) (some user)
  let _ ← Action.change
    (·.addMessage (some conversation) (some Role.assistant.word) (some greeting) (some character))
  return some greeting

/-- **Opening a conversation** between the character of a card file and a user. A card without a
name gives its character the name of the file. -/
def openConversation (file : Path) (user : Text) (scenario : Option Text) : Action Opening := do
  let text ← readFile file
  let card ← readCard text
  let name := card.name.orElse file.stem
  let character ← Action.change (·.createCharacter (some name) (some text) none none)
  let userId ← userNamed user
  let scenario ← scenarioBetween scenario character.name user
  let conversation ← Action.change
    (·.createConversation (some userId) (some character.id) scenario)
  Action.change fun s => do return (← s.join (some conversation.id) (some character.id), ())
  return ⟨conversation.id, character.name, ← greet conversation.id card character.name user⟩

end App

end Roleplay
