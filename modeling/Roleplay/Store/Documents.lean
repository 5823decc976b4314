import Roleplay.Store.Users

/-!
# Rows as documents

## Main definitions

* `User.toJson`, `Persona.toJson`, `Conversation.toJson`, `LoreEntry.toJson`,
  `StoredMessage.toJson`, `Participant.toJson`: the documents of rows
* `User.ofJson`, `Persona.ofJson`, `Conversation.ofJson`, `LoreEntry.ofJson`,
  `StoredMessage.ofJson`, `Participant.ofJson`: rows from their documents
* `Addressee.toJson`
-/

namespace Roleplay

/-- A text under a name that may be missing. -/
def Members.text? (name : Text) (ms : Members) : Checked (Option Text) :=
  ms.optional [name] none (Checked.nullable Json.asText)

/-- A whole number under a name that may be missing. -/
def Members.integer? (name : Text) (ms : Members) : Checked (Option Int) :=
  ms.optional [name] none (Checked.nullable Json.asInteger)

/-- The document of a user. -/
def User.toJson (u : User) : Json :=
  .obj [("id", .int u.id), ("username", .str u.name), ("display_name", .ofText? u.displayName),
    ("description", .ofText? u.description), ("avatar_ref", .ofText? u.avatar)]

/-- A user from its document. -/
def User.ofJson : Json → Checked User :=
  Checked.object fun ms =>
    mk <$> ms.required ["id"] Json.asInteger <*> ms.required ["username"] Json.asText
      <*> ms.text? "display_name" <*> ms.text? "description" <*> ms.text? "avatar_ref"

/-- The document of a persona. -/
def Persona.toJson (p : Persona) : Json :=
  .obj [("id", .int p.id), ("user_id", .int p.user), ("name", .str p.name),
    ("description", .ofText? p.description), ("avatar_ref", .ofText? p.avatar),
    ("is_active", .bool p.active)]

/-- A persona from its document. -/
def Persona.ofJson : Json → Checked Persona :=
  Checked.object fun ms =>
    mk <$> ms.required ["id"] Json.asInteger <*> ms.required ["user_id"] Json.asInteger
      <*> ms.required ["name"] Json.asText <*> ms.text? "description" <*> ms.text? "avatar_ref"
      <*> ms.required ["is_active"] Json.asFlag

/-- The document of an addressee. -/
def Addressee.toJson (a : Addressee) : Json :=
  .obj [("name", .str a.name), ("description", .str a.description),
    ("avatar_ref", .ofText? a.avatar)]

/-- The document of a conversation; every stored conversation is active. -/
def Conversation.toJson (c : Conversation) : Json :=
  .obj [("id", .int c.id), ("user_id", .int c.user), ("primary_character_id", .ofInt? c.primary),
    ("scenario", .ofText? c.scenario), ("world_info", .ofText? c.worldInfo),
    ("is_active", .bool true)]

/-- A conversation from its document. -/
def Conversation.ofJson : Json → Checked Conversation :=
  Checked.object fun ms =>
    mk <$> ms.required ["id"] Json.asInteger <*> ms.required ["user_id"] Json.asInteger
      <*> ms.integer? "primary_character_id" <*> ms.text? "scenario" <*> ms.text? "world_info"

/-- The document of an entry of lore. -/
def LoreEntry.toJson (e : LoreEntry) : Json :=
  .obj [("id", .int e.id), ("user_id", .int e.user), ("keywords", .str e.keywords),
    ("content", .str e.content), ("character_id", .ofInt? e.character),
    ("enabled", .bool e.enabled)]

/-- An entry of lore from its document. -/
def LoreEntry.ofJson : Json → Checked LoreEntry :=
  Checked.object fun ms =>
    mk <$> ms.required ["id"] Json.asInteger <*> ms.required ["user_id"] Json.asInteger
      <*> ms.required ["keywords"] Json.asText <*> ms.required ["content"] Json.asText
      <*> ms.integer? "character_id" <*> ms.required ["enabled"] Json.asFlag

/-- The document of a stored message. -/
def StoredMessage.toJson (m : StoredMessage) : Json :=
  .obj [("id", .int m.id), ("conversation_id", .int m.conversation), ("role", .str m.role),
    ("content", .str m.content), ("sender_name", .ofText? m.sender)]

/-- A stored message from its document. -/
def StoredMessage.ofJson : Json → Checked StoredMessage :=
  Checked.object fun ms =>
    mk <$> ms.required ["id"] Json.asInteger <*> ms.required ["conversation_id"] Json.asInteger
      <*> ms.required ["role"] Json.asText <*> ms.required ["content"] Json.asText
      <*> ms.text? "sender_name"

/-- The document of a participant. -/
def Participant.toJson (p : Participant) : Json :=
  .obj [("id", .int p.id), ("conversation_id", .int p.conversation),
    ("character_id", .int p.character), ("is_active", .bool p.active)]

/-- A participant from its document. -/
def Participant.ofJson : Json → Checked Participant :=
  Checked.object fun ms =>
    mk <$> ms.required ["id"] Json.asInteger <*> ms.required ["conversation_id"] Json.asInteger
      <*> ms.required ["character_id"] Json.asInteger <*> ms.required ["is_active"] Json.asFlag

end Roleplay
