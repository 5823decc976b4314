import Roleplay.Json.Lenient

/-!
# Messages

A conversation is a list of messages, the oldest first. A message has a role, and a reply may name
the character that speaks.

## Main definitions

* `Role`, `Message`
* `Message.ofJson`, `Message.toJson`: the document of a message
* `Message.prompt`: a message as a provider sees it
-/

namespace Roleplay

/-- **Who a message comes from.** -/
inductive Role
  | user
  | assistant
  | system
  | narrator
deriving DecidableEq, Repr

namespace Role

/-- The word of a role. -/
def word : Role → Text
  | user => "user"
  | assistant => "assistant"
  | system => "system"
  | narrator => "narrator"

/-- The role with a word. -/
def ofWord? (w : Text) : Option Role :=
  [user, assistant, system, narrator].find? (·.word = w)

/-- A role is the role with its word. -/
@[simp] theorem ofWord?_word (r : Role) : ofWord? r.word = some r := by
  cases r <;> decide

/-- A role from its document. -/
def ofJson : Json → Checked Role
  | .str w => .ofOption (ofWord? w)
  | _ => .invalid [[]]

end Role

/-- **A message**, stored in a conversation or not yet. -/
structure Message where
  role : Role
  content : Text := []
  sender : Option Text := none
  id : Option Int := none
  conversation : Option Int := none
deriving DecidableEq, Repr

namespace Message

/-- A message from its document. -/
def ofJson : Json → Checked Message :=
  Checked.object fun ms =>
    mk <$> ms.required ["role"] Role.ofJson
      <*> ms.optional ["content"] [] Json.asText
      <*> ms.optional ["sender_name"] none (Checked.nullable Json.asText)
      <*> ms.optional ["id"] none (Checked.nullable Json.asInteger)
      <*> ms.optional ["conversation_id"] none (Checked.nullable Json.asInteger)

/-- The document of a message. -/
def toJson (m : Message) : Json :=
  .obj [("role", .str m.role.word), ("content", .str m.content), ("sender_name", .ofText? m.sender),
    ("id", .ofInt? m.id), ("conversation_id", .ofInt? m.conversation)]

/-- **A message as a provider sees it**: the role and the content. -/
def prompt (m : Message) : Json :=
  .obj [("role", .str m.role.word), ("content", .str m.content)]

end Message

end Roleplay
