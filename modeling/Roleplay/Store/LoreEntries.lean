import Roleplay.Store.Basic

/-!
# Stored lore

## Main definitions

* `Store.createLore`, `Store.updateLore`, `Store.deleteLore`
* `Store.applicableLore`: the enabled entries of a user that are for everyone or for a character
* `Store.loreContext`: the block of a prompt that the turns call up
-/

namespace Roleplay.Store

/-- **A new entry of lore.** -/
def createLore (s : Store) (user : Option Int) (keywords content : Option Text)
    (character : Option Int) : Except Failure (Store × LoreEntry) := do
  s.accept [user, character]
  let user ← require "lorebook_entries" "user_id" user
  let keywords ← require "lorebook_entries" "keywords" keywords
  let content ← require "lorebook_entries" "content" content
  let (lore, e) := s.lore.insert fun id => { id, user, keywords, content, character }
  return ({ s with lore }, e)

/-- **The entries that may apply**: those of the user that are enabled, and for everyone or for
the character. -/
def applicableLore (s : Store) (user character : Option Int) :
    Except Failure (List LoreEntry) := do
  s.accept [user, character]
  return s.lore.filter fun e =>
    some e.user = user && e.enabled && (e.character.isNone || e.character = character)

/-- **Changing an entry**: keywords, content and whether it is enabled; whose it is stays. -/
def updateLore (s : Store) (id : Option Int) (keywords content : Option Text) (enabled : Bool) :
    Except Failure Store := do
  s.accept [id]
  if !s.lore.rows.any fun e => some e.id = id then return s
  let keywords ← require "lorebook_entries" "keywords" keywords
  let content ← require "lorebook_entries" "content" content
  let change := fun e : LoreEntry => { e with keywords, content, enabled }
  return { s with lore := s.lore.update (fun e => some e.id = id) change }

/-- **Deleting an entry.** -/
def deleteLore (s : Store) (id : Option Int) : Except Failure Store := do
  s.accept [id]
  return { s with lore := s.lore.remove fun e => some e.id = id }

/-- **The lore that turns call up**, none when no user is given. -/
def loreContext (s : Store) (user character : Option Int) (turns : List Text) :
    Except Failure Text := do
  if user = none ∨ user = some 0 then return []
  return Lore.context (← s.applicableLore user character) turns

end Roleplay.Store
