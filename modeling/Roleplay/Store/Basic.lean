import Roleplay.Character
import Roleplay.Failure
import Roleplay.Lore
import Roleplay.Message
import Roleplay.Store.Table

/-!
# The store

Everything that lasts: users with their personas, characters, conversations with their messages,
lore, and who takes part in the scene of a conversation. A value that must be there, a name that
must be the only one of its kind and a reference to a row that must be there are checked before
anything changes.

## Main definitions

* `User`, `Persona`, `Conversation`, `StoredMessage`, `Participant`: the rows
* `Store`: the tables
* `Store.accept`: a statement that the store takes at all
* `Store.require`: a value that must be there
-/

namespace Roleplay

/-- **A user.** -/
structure User where
  id : Int
  name : Text
  displayName : Option Text := none
  description : Option Text := none
  avatar : Option Text := none
deriving DecidableEq, Repr

/-- **A persona** under which a user speaks. -/
structure Persona where
  id : Int
  user : Int
  name : Text
  description : Option Text := none
  avatar : Option Text := none
  active : Bool := false
deriving DecidableEq, Repr

/-- **A conversation.** -/
structure Conversation where
  id : Int
  user : Int
  primary : Option Int := none
  scenario : Option Text := none
  worldInfo : Option Text := none
deriving DecidableEq, Repr

/-- **A message as it is stored**, its role a word that need not be that of a role. -/
structure StoredMessage where
  id : Int
  conversation : Int
  role : Text
  content : Text
  sender : Option Text := none
deriving DecidableEq, Repr

/-- **A character that has taken part** in the scene of a conversation, and whether it still
does. -/
structure Participant where
  id : Int
  conversation : Int
  character : Int
  active : Bool := true
deriving DecidableEq, Repr

/-- **The store.** -/
structure Store where
  isClosed : Bool := false
  users : Table User := {}
  personas : Table Persona := {}
  characters : Table Character := {}
  conversations : Table Conversation := {}
  messages : Table StoredMessage := {}
  lore : Table LoreEntry := {}
  participants : Table Participant := {}
deriving Repr, Inhabited

namespace Store

/-- The store without any row. -/
def empty : Store := {}

/-- **Closing the store**; it takes no statement any more. -/
def close (s : Store) : Store :=
  { s with isClosed := true }

/-- Whether a whole number fits into a column. -/
def fits (i : Int) : Bool :=
  -(Int.pow 2 63) ≤ i && i < Int.pow 2 63

/-- **A statement with some numbers** is taken when the store is open and the numbers fit. -/
def accept (s : Store) (numbers : List (Option Int)) : Except Failure Unit :=
  if s.isClosed then .error (.store .closed)
  else if numbers.any (·.any (!fits ·)) then .error (.store .numberTooLarge)
  else .ok ()

/-- A value that must be there, for a column of a table. -/
def require {α : Type} (table column : Text) : Option α → Except Failure α
  | none => .error (.store (.missingValue table column))
  | some a => .ok a

/-- A reference that must lead to a row. -/
def requireRow (isThere : Bool) : Except Failure Unit :=
  if isThere then .ok () else .error (.store .brokenReference)

/-- Whether there is a user with an id. -/
def hasUser (s : Store) (id : Int) : Bool :=
  s.users.rows.any (·.id = id)

/-- Whether there is a character with an id. -/
def hasCharacter (s : Store) (id : Int) : Bool :=
  s.characters.rows.any (·.id = id)

/-- Whether there is a conversation with an id. -/
def hasConversation (s : Store) (id : Int) : Bool :=
  s.conversations.rows.any (·.id = id)

end Store

end Roleplay
