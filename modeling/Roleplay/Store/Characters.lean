import Roleplay.Store.Basic

/-!
# Stored characters

## Main definitions

* `Store.createCharacter`, `Store.character?`, `Store.charactersByName`
-/

namespace Roleplay.Store

/-- **A new character** with a card. -/
def createCharacter (s : Store) (name cardText description postHistory : Option Text) :
    Except Failure (Store × Character) := do
  s.accept []
  let name ← require "characters" "name" name
  let cardText ← require "characters" "card_data" cardText
  let (characters, c) := s.characters.insert fun id =>
    { id, name, description, postHistory, cardText }
  return ({ s with characters }, c)

/-- **The character of an id.** -/
def character? (s : Store) (id : Option Int) : Except Failure (Option Character) := do
  s.accept [id]
  return s.characters.find? fun c => some c.id = id

/-- All characters in the order of their names. -/
def charactersByName (s : Store) : Except Failure (List Character) := do
  s.accept []
  return s.characters.rows.mergeSort fun c d => Text.le c.name d.name

end Roleplay.Store
