import Roleplay.Store.Basic

/-!
# The scene of a conversation

Characters join a scene and leave it. One that comes back has its old place: the cast is ordered by
who joined first.

## Main definitions

* `Store.join`, `Store.leave`, `Store.isInScene`
* `Store.activeCast`, `Store.wholeCast`, `Store.primaryCharacter?`
-/

namespace Roleplay.Store

/-- Whether a participant is the given one. -/
def isParticipant (conversation character : Option Int) (p : Participant) : Bool :=
  some p.conversation = conversation && some p.character = character

/-- The store with a participant in the scene or out of it. -/
def setPresent (s : Store) (conversation character : Option Int) (present : Bool) : Store :=
  let change := fun p : Participant => { p with active := present }
  { s with participants := s.participants.update (isParticipant conversation character) change }

/-- **Joining a scene.** -/
def join (s : Store) (conversation character : Option Int) : Except Failure Store := do
  s.accept [conversation, character]
  let conversation ← require "scene_participants" "conversation_id" conversation
  let character ← require "scene_participants" "character_id" character
  if s.participants.rows.any (isParticipant conversation character) then
    return s.setPresent conversation character true
  requireRow (s.hasConversation conversation && s.hasCharacter character)
  let (participants, _) := s.participants.insert fun id => { id, conversation, character }
  return { s with participants }

/-- **Whether a character is in a scene.** -/
def isInScene (s : Store) (conversation character : Option Int) : Except Failure Bool := do
  s.accept [conversation, character]
  return s.participants.rows.any fun p => isParticipant conversation character p && p.active

/-- **Leaving a scene**, and whether the character was in it. -/
def leave (s : Store) (conversation character : Option Int) : Except Failure (Store × Bool) := do
  let wasThere ← s.isInScene conversation character
  return (s.setPresent conversation character false, wasThere)

/-- The characters of a scene, in the order in which they joined first. -/
def cast (s : Store) (conversation : Option Int) (activeOnly : Bool) : List Character :=
  (s.participants.filter fun p => some p.conversation = conversation && (p.active || !activeOnly))
    |>.filterMap fun p => s.characters.find? (·.id = p.character)

/-- **The characters that are in a scene.** -/
def activeCast (s : Store) (conversation : Option Int) : Except Failure (List Character) := do
  s.accept [conversation]
  return s.cast conversation true

/-- All characters that were ever in a scene. -/
def wholeCast (s : Store) (conversation : Option Int) : Except Failure (List Character) := do
  s.accept [conversation]
  return s.cast conversation false

/-- **The primary character** of a conversation: the one that is set, or else the first that is in
the scene. -/
def primaryCharacter? (s : Store) (conversation : Option Int) :
    Except Failure (Option Character) := do
  s.accept [conversation]
  let primary := (s.conversations.find? fun c => some c.id = conversation).bind (·.primary)
  match s.characters.find? fun c => some c.id = primary with
  | some c => return some c
  | none => return (s.cast conversation true).head?

end Roleplay.Store
