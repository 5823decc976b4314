import Roleplay.Store.Basic

/-!
# Stored conversations

A conversation belongs to a user, may have a primary character and a scenario, and keeps a document
about its world. Its messages are read in the order in which they were added.

## Main definitions

* `Store.createConversation`, `Store.conversation?`, `Store.setPrimary`, `Store.worldInfo?`,
  `Store.setWorldInfo`
* `Store.addMessage`, `Store.history`, `Store.recent`
* `StoredMessage.read`: a stored message as a message
-/

namespace Roleplay

/-- A stored message as a message; its role must be that of a role. -/
def StoredMessage.read (m : StoredMessage) : Except Failure Message :=
  match Role.ofWord? m.role with
  | none => .error (.invalid ["role"])
  | some role => .ok ⟨role, m.content, m.sender, some m.id, some m.conversation⟩

namespace Store

/-- **A new conversation** of a user. -/
def createConversation (s : Store) (user primary : Option Int) (scenario : Option Text) :
    Except Failure (Store × Conversation) := do
  s.accept [user, primary]
  let user ← require "conversations" "user_id" user
  requireRow (primary.all s.hasCharacter)
  let (conversations, c) := s.conversations.insert fun id => { id, user, primary, scenario }
  return ({ s with conversations }, c)

/-- **The conversation of an id.** -/
def conversation? (s : Store) (id : Option Int) : Except Failure (Option Conversation) := do
  s.accept [id]
  return s.conversations.find? fun c => some c.id = id

/-- The store with a conversation changed. -/
def changeConversation (s : Store) (id : Option Int) (f : Conversation → Conversation) : Store :=
  { s with conversations := s.conversations.update (fun c => some c.id = id) f }

/-- Giving a conversation a primary character, or none. -/
def setPrimary (s : Store) (id primary : Option Int) : Except Failure Store := do
  s.accept [primary, id]
  if (id.any s.hasConversation) then requireRow (primary.all s.hasCharacter)
  return s.changeConversation id fun c => { c with primary }

/-- **The text of the world document** of a conversation. -/
def worldInfo? (s : Store) (id : Option Int) : Except Failure (Option Text) := do
  s.accept [id]
  return (s.conversations.find? fun c => some c.id = id).bind (·.worldInfo)

/-- **Another world document** for a conversation. -/
def setWorldInfo (s : Store) (id : Option Int) (worldInfo : Option Text) : Except Failure Store := do
  s.accept [id]
  return s.changeConversation id fun c => { c with worldInfo }

/-- **A message more** at the end of a conversation. -/
def addMessage (s : Store) (conversation : Option Int) (role content sender : Option Text) :
    Except Failure (Store × StoredMessage) := do
  s.accept [conversation]
  let conversation ← require "messages" "conversation_id" conversation
  let role ← require "messages" "role" role
  let content ← require "messages" "content" content
  requireRow (s.hasConversation conversation)
  let (messages, m) := s.messages.insert fun id => { id, conversation, role, content, sender }
  return ({ s with messages }, m)

/-- The stored messages of a conversation, the oldest first. -/
def messagesOf (s : Store) (conversation : Option Int) : List StoredMessage :=
  s.messages.filter fun m => some m.conversation = conversation

/-- **The messages of a conversation**, the oldest first. -/
def history (s : Store) (conversation : Option Int) : Except Failure (List Message) := do
  s.accept [conversation]
  (s.messagesOf conversation).mapM (·.read)

/-- **The newest messages of a conversation**, the oldest of them first; a negative limit means
all. -/
def recent (s : Store) (conversation : Option Int) (limit : Int) : Except Failure (List Message) := do
  s.accept [conversation, some limit]
  let ms := s.messagesOf conversation
  (if limit < 0 then ms else ms.drop (ms.length - limit.toNat)).mapM (·.read)

end Store

end Roleplay
