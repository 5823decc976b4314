import Roleplay.Proofs.Store.Cast
import Roleplay.Store.Characters
import Roleplay.Store.Conversations
import Roleplay.Store.Users

/-!
# Rows that are new

The statements that make a conversation each put one row into one table and leave the others alone.
What they do together is counted: the rows that a store has more than it had are behind those that
were there, so many in each table.

## Main definitions

* `RowCount`, `Store.Gains`: how many rows a store has more than another one

## Main results

* `Store.Gains.trans`: rows add up
* `Store.createCharacter_eq`, `Store.createConversation_eq`, `Store.join_eq`, `Store.addMessage_eq`:
  the statements, in a store that takes them
-/

namespace Roleplay

open Text

/-- **A table with some rows more**, behind the others. -/
def Table.Gains {α : Type} (t t' : Table α) (n : Nat) : Prop :=
  ∃ rows, rows.length = n ∧ t'.rows = t.rows ++ rows

namespace Table.Gains

variable {α : Type} {t t' t'' : Table α} {n n' : Nat}

theorem refl (t : Table α) : t.Gains t 0 :=
  ⟨[], rfl, (List.append_nil _).symm⟩

theorem trans (h : t.Gains t' n) (h' : t'.Gains t'' n') : t.Gains t'' (n + n') := by
  obtain ⟨rows, rfl, hrows⟩ := h
  obtain ⟨rows', rfl, hrows'⟩ := h'
  exact ⟨rows ++ rows', List.length_append, by rw [hrows', hrows, List.append_assoc]⟩

theorem concat {row : α} (h : t'.rows = t.rows ++ [row]) : t.Gains t' 1 :=
  ⟨[row], rfl, h⟩

end Table.Gains

/-- **Numbers of rows** of the tables that an opening fills. -/
structure RowCount where
  characters : Nat := 0
  users : Nat := 0
  conversations : Nat := 0
  participants : Nat := 0
  messages : Nat := 0

instance : Add RowCount where
  add m n := ⟨m.characters + n.characters, m.users + n.users, m.conversations + n.conversations,
    m.participants + n.participants, m.messages + n.messages⟩

theorem RowCount.add_eq (m n : RowCount) :
    m + n = ⟨m.characters + n.characters, m.users + n.users, m.conversations + n.conversations,
      m.participants + n.participants, m.messages + n.messages⟩ := rfl

namespace Store

/-- **A store with some rows more.** Nothing else of it has changed but the last ids. -/
structure Gains (s s' : Store) (n : RowCount) : Prop where
  isClosed : s'.isClosed = s.isClosed
  characters : s.characters.Gains s'.characters n.characters
  users : s.users.Gains s'.users n.users
  conversations : s.conversations.Gains s'.conversations n.conversations
  participants : s.participants.Gains s'.participants n.participants
  messages : s.messages.Gains s'.messages n.messages
  personas : s'.personas = s.personas
  lore : s'.lore = s.lore

theorem Gains.refl (s : Store) : s.Gains s {} :=
  ⟨rfl, .refl _, .refl _, .refl _, .refl _, .refl _, rfl, rfl⟩

theorem Gains.trans {s s' s'' : Store} {m n : RowCount} (h : s.Gains s' m) (h' : s'.Gains s'' n) :
    s.Gains s'' (m + n) :=
  ⟨h'.isClosed.trans h.isClosed, h.characters.trans h'.characters, h.users.trans h'.users,
    h.conversations.trans h'.conversations, h.participants.trans h'.participants,
    h.messages.trans h'.messages, h'.personas.trans h.personas, h'.lore.trans h.lore⟩

/-! ### The statements -/

variable {s : Store}

theorem accept_nil (h : s.isClosed = false) : s.accept [] = .ok () :=
  accept_eq_ok_iff.mpr ⟨h, fun _ hn => absurd hn List.not_mem_nil⟩

/-- The store with another character. -/
def withCharacter (s : Store) (name cardText : Text) : Store :=
  { s with characters := (s.characters.insert fun id => { id, name, cardText }).1 }

theorem createCharacter_eq (h : s.isClosed = false) (name cardText : Text) :
    s.createCharacter (some name) (some cardText) none none =
      .ok (s.withCharacter name cardText,
        { id := s.characters.lastId + 1, name, cardText }) := by
  rw [createCharacter, accept_nil h]
  rfl

theorem gains_withCharacter (s : Store) (name cardText : Text) :
    s.Gains (s.withCharacter name cardText) { characters := 1 } :=
  ⟨rfl, .concat rfl, .refl _, .refl _, .refl _, .refl _, rfl, rfl⟩

theorem hasCharacter_withCharacter (s : Store) (name cardText : Text) :
    (s.withCharacter name cardText).hasCharacter (s.characters.lastId + 1) = true := by
  simp [hasCharacter, withCharacter]

/-- How many users of a name are missing: one or none. -/
def missingUsers (s : Store) (name : Text) : Nat :=
  if s.users.rows.any (·.name = name) then 0 else 1

/-- The store with a user of a name. -/
def withUser (s : Store) (name : Text) : Store :=
  if s.users.rows.any (·.name = name) then s
  else
    { s with users := (s.users.insert fun id =>
        { id, name, displayName := some name, description := some [] }).1 }

/-- Another user changes nothing but the table of users. -/
theorem exists_withUser (s : Store) (name : Text) :
    ∃ users, s.withUser name = { s with users } := by
  rw [withUser]
  split
  · exact ⟨s.users, rfl⟩
  · exact ⟨_, rfl⟩

theorem gains_withUser (s : Store) (name : Text) :
    s.Gains (s.withUser name) { users := s.missingUsers name } := by
  rw [withUser, missingUsers]
  split
  · exact .refl s
  · exact ⟨rfl, .refl _, .concat rfl, .refl _, .refl _, .refl _, rfl, rfl⟩

/-- The store with another conversation. -/
def withConversation (s : Store) (user character : Int) (scenario : Option Text) : Store :=
  { s with conversations :=
      (s.conversations.insert fun id => { id, user, primary := some character, scenario }).1 }

theorem createConversation_eq (h : s.isClosed = false) {user character : Int}
    (hu : fits user = true) (hc : fits character = true) (hthere : s.hasCharacter character = true)
    (scenario : Option Text) :
    s.createConversation (some user) (some character) scenario =
      .ok (s.withConversation user character scenario,
        { id := s.conversations.lastId + 1, user, primary := some character, scenario }) := by
  have haccept : s.accept [some user, some character] = .ok () :=
    accept_eq_ok_iff.mpr ⟨h, by simp [hu, hc]⟩
  have hrow : requireRow ((some character).all s.hasCharacter) = .ok () :=
    requireRow_eq_ok_iff.mpr hthere
  rw [createConversation, haccept, hrow]
  rfl

theorem hasConversation_withConversation (s : Store) (user character : Int)
    (scenario : Option Text) : (s.withConversation user character scenario).hasConversation
      (s.conversations.lastId + 1) = true := by
  simp [hasConversation, withConversation]

theorem gains_withConversation (s : Store) (user character : Int) (scenario : Option Text) :
    s.Gains (s.withConversation user character scenario) { conversations := 1 } :=
  ⟨rfl, .refl _, .refl _, .concat rfl, .refl _, .refl _, rfl, rfl⟩

/-- The store with a character in a scene where it has never been. -/
theorem join_eq (h : s.isClosed = false) {conversation character : Int}
    (hconversation : fits conversation = true) (hcharacter : fits character = true)
    (hthere : s.hasConversation conversation = true ∧ s.hasCharacter character = true)
    (hnew : s.participants.rows.any (isParticipant (some conversation) (some character)) = false) :
    s.join (some conversation) (some character) = .ok (s.withParticipants
      (s.participants.insert fun id => { id, conversation, character }).1) := by
  have hact := act_eq (m := .join conversation character) h
    ⟨⟨hconversation, hcharacter⟩, fun _ => hthere⟩
  rw [Participants.after, if_neg (by simp [hnew])] at hact
  exact hact

theorem gains_withParticipant (s : Store) (make : Int → Participant) :
    s.Gains (s.withParticipants (s.participants.insert make).1) { participants := 1 } :=
  ⟨rfl, .refl _, .refl _, .refl _, .concat rfl, .refl _, rfl, rfl⟩

/-- The store with another message. -/
def withMessage (s : Store) (conversation : Int) (role content : Text) (sender : Option Text) :
    Store :=
  { s with messages := (s.messages.insert fun id => { id, conversation, role, content, sender }).1 }

theorem addMessage_eq (h : s.isClosed = false) {conversation : Int}
    (hconversation : fits conversation = true) (hthere : s.hasConversation conversation = true)
    (role content : Text) (sender : Option Text) :
    s.addMessage (some conversation) (some role) (some content) sender =
      .ok (s.withMessage conversation role content sender,
        ⟨s.messages.lastId + 1, conversation, role, content, sender⟩) := by
  have haccept : s.accept [some conversation] = .ok () :=
    accept_eq_ok_iff.mpr ⟨h, by simp [hconversation]⟩
  have hrow : requireRow (s.hasConversation conversation) = .ok () :=
    requireRow_eq_ok_iff.mpr hthere
  rw [addMessage, haccept]
  show (requireRow (s.hasConversation conversation) >>= fun _ => _) = _
  rw [hrow]
  rfl

theorem gains_withMessage (s : Store) (conversation : Int) (role content : Text)
    (sender : Option Text) :
    s.Gains (s.withMessage conversation role content sender) { messages := 1 } :=
  ⟨rfl, .refl _, .refl _, .refl _, .refl _, .concat rfl, rfl, rfl⟩

end Store

end Roleplay
