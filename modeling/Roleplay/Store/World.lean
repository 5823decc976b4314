import Roleplay.Store.Conversations

/-!
# The stored world of a conversation

A conversation keeps world info as the text of a document. A text that cannot be read counts as
none. Another state takes the place of the old one; the other members of the document are kept.

## Main definitions

* `Store.readWorld`: the world info of a conversation
* `Store.worldState?`: the state in it
* `Store.updateWorld`: another state stored
-/

namespace Roleplay.Store

/-- **World info from a stored text**, none when it is empty or cannot be read. -/
def worldOfText : Option Text → Except Failure (Option WorldInfo)
  | none => .ok none
  | some t =>
    if t.isEmpty then .ok none
    else match WorldInfo.read t with
      | .ok i => .ok (some i)
      | .error .notListable => .error .wrongKind
      | .error _ => .ok none

/-- **The world info of a conversation.** -/
def readWorld (s : Store) (conversation : Option Int) : Except Failure (Option WorldInfo) := do
  worldOfText (← s.worldInfo? conversation)

/-- **The state of the world of a conversation.** -/
def worldState? (s : Store) (conversation : Option Int) : Except Failure (Option WorldState) := do
  return (← s.readWorld conversation).bind (·.state)

/-- **Storing another state** of the world of a conversation. -/
def updateWorld (s : Store) (conversation : Option Int) (state : Option WorldState) :
    Except Failure Store := do
  let info := (← s.readWorld conversation)
  s.setWorldInfo conversation (some (WorldInfo.withState info state).text)

end Roleplay.Store
