import Roleplay.Store.Basic

/-!
# Users and personas

A user may speak under a persona. At most one of the personas of a user is the active one.

## Main definitions

* `Store.createUser`, `Store.user?`, `Store.userId?`
* `Store.createPersona`, `Store.setActive`, `Store.activePersona?`, `Store.personasOf`
* `Addressee`, `Store.addressee`: whom a character speaks to
-/

namespace Roleplay

/-- **Whom a character speaks to.** -/
structure Addressee where
  name : Text
  description : Text := []
  avatar : Option Text := none
deriving DecidableEq, Repr

/-- The addressee of whom nothing is known. -/
def Addressee.unknown : Addressee := ⟨"User", [], none⟩

/-- The addressee that a persona makes. -/
def Persona.addressee (p : Persona) : Addressee :=
  ⟨p.name, Text.orEmpty p.description, p.avatar⟩

/-- The addressee that a user makes without a persona. -/
def User.addressee (u : User) : Addressee :=
  ⟨Text.given u.displayName (u.name.orElse Addressee.unknown.name), Text.orEmpty u.description,
    u.avatar⟩

namespace Store

/-- **A new user**; no two have the same name. -/
def createUser (s : Store) (name displayName description : Option Text) :
    Except Failure (Store × User) := do
  s.accept []
  let name ← require "users" "username" name
  if s.users.rows.any (·.name = name) then throw (.store (.repeatedValue "users" "username"))
  let (users, u) := s.users.insert fun id => { id, name, displayName, description }
  return ({ s with users }, u)

/-- **The user of an id.** -/
def user? (s : Store) (id : Option Int) : Except Failure (Option User) := do
  s.accept [id]
  return s.users.find? fun u => some u.id = id

/-- The id of the user of a name. -/
def userId? (s : Store) (name : Option Text) : Except Failure (Option Int) := do
  s.accept []
  return (s.users.find? fun u => some u.name = name).map (·.id)

/-- The personas of a user with the one of an id active, or none of them. -/
def activate (s : Store) (user persona : Option Int) : Store :=
  let choose := fun p : Persona => { p with active := some p.id = persona }
  { s with personas := s.personas.update (fun p => some p.user = user) choose }

/-- **Making a persona of a user the only active one**, or none. A number that does not fit shows
only after all have been made inactive. -/
def setActive (s : Store) (user persona : Option Int) : Store × Except Failure Unit :=
  match s.accept [user] with
  | .error e => (s, .error e)
  | .ok () =>
    match s.accept [persona] with
    | .error e => (s.activate user none, .error e)
    | .ok () => (s.activate user persona, .ok ())

/-- **A new persona** of a user, active or not. -/
def createPersona (s : Store) (user : Option Int) (name description avatar : Option Text)
    (active : Bool) : Except Failure (Store × Persona) := do
  s.accept [user]
  let user ← require "personas" "user_id" user
  let name ← require "personas" "name" name
  requireRow (s.hasUser user)
  let (personas, p) := s.personas.insert fun id => { id, user, name, description, avatar }
  let s := { s with personas }
  return (if active then s.activate user (some p.id) else s, { p with active })

/-- **The active persona** of a user. -/
def activePersona? (s : Store) (user : Option Int) : Except Failure (Option Persona) := do
  s.accept [user]
  return s.personas.find? fun p => some p.user = user && p.active

/-- The personas of a user, the oldest first. -/
def personasOf (s : Store) (user : Option Int) : Except Failure (List Persona) := do
  s.accept [user]
  return s.personas.filter fun p => some p.user = user

/-- **Whom a character speaks to** when a user is given: the active persona, or else the user. -/
def addressee (s : Store) (user : Option Int) : Except Failure Addressee := do
  if user = none ∨ user = some 0 then return .unknown
  match ← s.activePersona? user with
  | some p => return p.addressee
  | none =>
    match ← s.user? user with
    | some u => return u.addressee
    | none => return .unknown

end Store

end Roleplay
