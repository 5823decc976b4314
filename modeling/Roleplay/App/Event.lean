import Roleplay.Message
import Roleplay.World.Document

/-!
# Events

What the subscribers of a conversation are told.

## Main definitions

* `Event`, `Event.toJson`
-/

namespace Roleplay

/-- **What subscribers are told**: a message was stored, someone starts or ends writing, or the
state of the world is another one. -/
inductive Event
  | newMessage (m : Message)
  | typing (isTyping : Bool)
  | worldState (s : WorldState)
deriving DecidableEq, Repr

/-- The document of an event. -/
def Event.toJson : Event → Json
  | newMessage m => .obj [("type", .str "new-message"), ("message", m.toJson)]
  | typing isTyping => .obj [("type", .str "typing"), ("isTyping", .bool isTyping)]
  | worldState s => .obj [("type", .str "world-state"), ("worldState", s.toJson)]

end Roleplay
