import Mathlib.Algebra.Group.Int.Defs
import Mathlib.Algebra.Group.Nat.Defs
import Roleplay.Proofs.Store.Gains
import Roleplay.Proofs.Store.Lore
import Roleplay.Proofs.Store.Personas

/-!
# Room for more rows

A store takes another row as long as there is a number for it, and numbers are 64 bits wide. They
count up from one, and a row refers to rows that are there. So every store has room that was made by
fewer statements than there are numbers, whatever the statements were and whether or not they went
well.

The invariant of a run of statements counts them: no number is above the count, and who takes part
in a conversation takes part in one whose number was given.

## Main definitions

* `Store.TakesConversation`, `Store.HasRoom`: a store that can take another conversation, and a
  character and a user for it
* `Table.Numbered id t n`: the ids of the rows count up from one, to at most `n`
* `Statement`, `Store.after`: the statements, and the store after one
* `Store.Counted s n`: a store after `n` statements at most

## Main results

* `Store.Counted.after`: what a statement preserves
* `Store.hasRoom_of_statements`: a store that some statements have made has room for more
-/

namespace Roleplay

namespace Store

/-- **A store that can take another conversation**: it is open, the next number fits, and nobody
takes part in a conversation that is yet to come. -/
structure TakesConversation (s : Store) : Prop where
  isOpen : s.isClosed = false
  conversation : fits (s.conversations.lastId + 1) = true
  participants : ∀ p ∈ s.participants.rows, p.conversation ≤ s.conversations.lastId

/-- **A store with room for an opening**: it can take a character and a user too. -/
structure HasRoom (s : Store) : Prop extends s.TakesConversation where
  character : fits (s.characters.lastId + 1) = true
  user : fits (s.users.lastId + 1) = true
  users : ∀ u ∈ s.users.rows, fits u.id = true

theorem fits_iff {i : Int} : fits i = true ↔ -2 ^ 63 ≤ i ∧ i < 2 ^ 63 := by
  have hpow : Int.pow 2 63 = 2 ^ 63 := rfl
  rw [fits, hpow, Bool.and_eq_true, decide_eq_true_eq, decide_eq_true_eq]

end Store

/-! ## Numbered rows -/

namespace Table

variable {α : Type} {id : α → Int} {t : Table α} {m n : Nat}

/-- **The ids of the rows count up from one**, to at most `n`. -/
structure Numbered (id : α → Int) (t : Table α) (n : Nat) : Prop where
  nonneg : 0 ≤ t.lastId
  lastId_le : t.lastId ≤ n
  ids : ∀ r ∈ t.rows, 0 < id r ∧ id r ≤ t.lastId

namespace Numbered

theorem empty : Numbered id {} 0 :=
  ⟨Int.le_refl 0, Int.le_refl 0, fun _ h => absurd h List.not_mem_nil⟩

theorem mono (h : t.Numbered id m) (hmn : m ≤ n) : t.Numbered id n :=
  ⟨h.nonneg, Int.le_trans h.lastId_le (Int.ofNat_le.mpr hmn), h.ids⟩

theorem insert (h : t.Numbered id n) {make : Int → α} (hmake : ∀ i, id (make i) = i) :
    (t.insert make).1.Numbered id (n + 1) where
  nonneg := Int.le_add_one h.nonneg
  lastId_le := Int.add_le_add_right h.lastId_le 1
  ids := by
    intro r hr
    rw [rows_insert, List.mem_append, List.mem_singleton] at hr
    rcases hr with hr | rfl
    · exact ⟨(h.ids r hr).1, Int.le_add_one (h.ids r hr).2⟩
    · rw [hmake]
      exact ⟨Int.lt_add_one_of_le h.nonneg, Int.le_refl _⟩

/-- A change that leaves the ids alone. -/
theorem update (h : t.Numbered id n) {p : α → Bool} {f : α → α} (hf : ∀ r, id (f r) = id r) :
    (t.update p f).Numbered id n where
  nonneg := h.nonneg
  lastId_le := h.lastId_le
  ids := by
    intro r hr
    obtain ⟨q, hq, rfl⟩ := List.mem_map.mp hr
    split
    · rw [hf]
      exact h.ids q hq
    · exact h.ids q hq

/-- There is a number for the next row. -/
theorem fits_next (h : t.Numbered id n) (hn : n + 1 < 2 ^ 63) :
    Store.fits (t.lastId + 1) = true := by
  have hlow := h.nonneg
  have hhigh := h.lastId_le
  rw [Store.fits_iff]
  omega

/-- The numbers of the rows fit. -/
theorem fits (h : t.Numbered id n) (hn : n < 2 ^ 63) {r : α} (hr : r ∈ t.rows) :
    Store.fits (id r) = true := by
  obtain ⟨hlow, hle⟩ := h.ids r hr
  have hhigh := h.lastId_le
  rw [Store.fits_iff]
  omega

end Numbered

end Table

/-! ## Statements -/

/-- **A statement** that may change the store. -/
inductive Statement
  | persona (c : PersonaCall)
  | lore (c : LoreCall)
  | createCharacter (name cardText description postHistory : Option Text)
  | createConversation (user primary : Option Int) (scenario : Option Text)
  | setPrimary (id primary : Option Int)
  | setWorldInfo (id : Option Int) (worldInfo : Option Text)
  | addMessage (conversation : Option Int) (role content sender : Option Text)
  | join (conversation character : Option Int)
  | leave (conversation character : Option Int)

namespace Store

/-- What a statement leaves: the store as it was, when it fails. -/
def keep (s : Store) (r : Except Failure Store) : Store :=
  r.toOption.getD s

/-- **The store after a statement.** -/
def after (s : Store) : Statement → Store
  | .persona c => s.call c
  | .lore c => s.callLore c
  | .createCharacter name cardText description postHistory =>
    s.keep ((s.createCharacter name cardText description postHistory).map (·.1))
  | .createConversation user primary scenario =>
    s.keep ((s.createConversation user primary scenario).map (·.1))
  | .setPrimary id primary => s.keep (s.setPrimary id primary)
  | .setWorldInfo id worldInfo => s.keep (s.setWorldInfo id worldInfo)
  | .addMessage conversation role content sender =>
    s.keep ((s.addMessage conversation role content sender).map (·.1))
  | .join conversation character => s.keep (s.join conversation character)
  | .leave conversation character => s.keep ((s.leave conversation character).map (·.1))

variable {s t : Store} {n : Nat} {id user primary conversation character : Option Int}

/-! ### What a statement that goes well changes -/

theorem createCharacter_eq_ok {name cardText description postHistory : Option Text}
    {c : Character} (h : s.createCharacter name cardText description postHistory = .ok (t, c)) :
    ∃ make : Int → Character, (∀ i, (make i).id = i) ∧
      t = { s with characters := (s.characters.insert make).1 } := by
  rw [createCharacter] at h
  obtain ⟨-, -, h⟩ := Except.exists_of_bind_eq_ok h
  obtain ⟨name, -, h⟩ := Except.exists_of_bind_eq_ok h
  obtain ⟨cardText, -, h⟩ := Except.exists_of_bind_eq_ok h
  obtain ⟨rfl, -⟩ := Prod.mk.inj (Except.ok.inj h)
  exact ⟨fun id => { id, name, description, postHistory, cardText }, fun _ => rfl, rfl⟩

theorem createConversation_eq_ok {scenario : Option Text} {c : Conversation}
    (h : s.createConversation user primary scenario = .ok (t, c)) :
    ∃ make : Int → Conversation, (∀ i, (make i).id = i) ∧
      t = { s with conversations := (s.conversations.insert make).1 } := by
  rw [createConversation] at h
  obtain ⟨-, -, h⟩ := Except.exists_of_bind_eq_ok h
  obtain ⟨user, -, h⟩ := Except.exists_of_bind_eq_ok h
  obtain ⟨-, -, h⟩ := Except.exists_of_bind_eq_ok h
  obtain ⟨rfl, -⟩ := Prod.mk.inj (Except.ok.inj h)
  exact ⟨fun id => { id, user, primary, scenario }, fun _ => rfl, rfl⟩

theorem setPrimary_eq_ok (h : s.setPrimary id primary = .ok t) :
    t = s.changeConversation id fun c => { c with primary } := by
  rw [setPrimary] at h
  obtain ⟨-, -, h⟩ := Except.exists_of_bind_eq_ok h
  dsimp only at h
  split at h
  · obtain ⟨-, -, h⟩ := Except.exists_of_bind_eq_ok h
    exact (Except.ok.inj h).symm
  · exact (Except.ok.inj h).symm

theorem setWorldInfo_eq_ok {worldInfo : Option Text} (h : s.setWorldInfo id worldInfo = .ok t) :
    t = s.changeConversation id fun c => { c with worldInfo } := by
  rw [setWorldInfo] at h
  obtain ⟨-, -, h⟩ := Except.exists_of_bind_eq_ok h
  exact (Except.ok.inj h).symm

theorem addMessage_eq_ok {role content sender : Option Text} {m : StoredMessage}
    (h : s.addMessage conversation role content sender = .ok (t, m)) :
    ∃ messages, t = { s with messages } := by
  rw [addMessage] at h
  obtain ⟨-, -, h⟩ := Except.exists_of_bind_eq_ok h
  obtain ⟨conversation, -, h⟩ := Except.exists_of_bind_eq_ok h
  obtain ⟨role, -, h⟩ := Except.exists_of_bind_eq_ok h
  obtain ⟨content, -, h⟩ := Except.exists_of_bind_eq_ok h
  obtain ⟨-, -, h⟩ := Except.exists_of_bind_eq_ok h
  obtain ⟨rfl, -⟩ := Prod.mk.inj (Except.ok.inj h)
  exact ⟨_, rfl⟩

/-- One that joins is marked as present, or has a new row in a conversation that is there. -/
theorem join_cases (h : s.join conversation character = .ok t) :
    t = s.setPresent conversation character true ∨
      ∃ c x : Int, s.hasConversation c = true ∧ t = s.withParticipants
        (s.participants.insert fun id => { id, conversation := c, character := x }).1 := by
  rw [join] at h
  obtain ⟨-, -, h⟩ := Except.exists_of_bind_eq_ok h
  obtain ⟨c, hc, h⟩ := Except.exists_of_bind_eq_ok h
  obtain ⟨x, hx, h⟩ := Except.exists_of_bind_eq_ok h
  rw [require_eq_ok_iff.mp hc, require_eq_ok_iff.mp hx]
  dsimp only at h
  split at h
  · exact .inl (Except.ok.inj h).symm
  · obtain ⟨_, hthere, h⟩ := Except.exists_of_bind_eq_ok h
    rw [requireRow_eq_ok_iff, Bool.and_eq_true] at hthere
    exact .inr ⟨c, x, hthere.1, (Except.ok.inj h).symm⟩

theorem leave_eq_ok {wasThere : Bool}
    (h : s.leave conversation character = .ok (t, wasThere)) :
    t = s.setPresent conversation character false := by
  rw [leave] at h
  obtain ⟨_, -, h⟩ := Except.exists_of_bind_eq_ok h
  exact (Prod.mk.inj (Except.ok.inj h)).1.symm

/-! ### The invariant -/

/-- **A store after at most** `n` **statements.** -/
structure Counted (s : Store) (n : Nat) : Prop where
  isOpen : s.isClosed = false
  characters : s.characters.Numbered (·.id) n
  users : s.users.Numbered (·.id) n
  conversations : s.conversations.Numbered (·.id) n
  participants : ∀ p ∈ s.participants.rows, p.conversation ≤ s.conversations.lastId

namespace Counted

theorem empty : Counted .empty 0 :=
  ⟨rfl, .empty, .empty, .empty, fun _ h => absurd h List.not_mem_nil⟩

/-- A statement more, which changes nothing. -/
theorem succ (h : s.Counted n) : s.Counted (n + 1) :=
  ⟨h.isOpen, h.characters.mono n.le_succ, h.users.mono n.le_succ, h.conversations.mono n.le_succ,
    h.participants⟩

/-- Only these tables are counted. -/
theorem congr (h : s.Counted n) (hclosed : t.isClosed = s.isClosed)
    (hcharacters : t.characters = s.characters) (husers : t.users = s.users)
    (hconversations : t.conversations = s.conversations)
    (hparticipants : t.participants = s.participants) : t.Counted n := by
  obtain ⟨hopen, hc, hu, hv, hp⟩ := h
  rw [← hconversations] at hv hp
  rw [← hparticipants] at hp
  exact ⟨hclosed.trans hopen, hcharacters ▸ hc, husers ▸ hu, hv, hp⟩

theorem keep (h : s.Counted n) {r : Except Failure Store}
    (hr : ∀ t, r = .ok t → t.Counted (n + 1)) : (s.keep r).Counted (n + 1) := by
  cases r with
  | ok t => exact hr t rfl
  | error e => exact h.succ

/-- What a statement gives besides the store is not kept. -/
theorem keep_fst (h : s.Counted n) {α : Type} {r : Except Failure (Store × α)}
    (hr : ∀ t a, r = .ok (t, a) → t.Counted (n + 1)) : (s.keep (r.map (·.1))).Counted (n + 1) := by
  refine h.keep fun t ht => ?_
  obtain ⟨⟨t', a⟩, hta, rfl⟩ := Except.exists_of_map_eq_ok ht
  exact hr t' a hta

theorem changeConversation (h : s.Counted n) (id : Option Int) {f : Conversation → Conversation}
    (hf : ∀ c, (f c).id = c.id) : (s.changeConversation id f).Counted n :=
  ⟨h.isOpen, h.characters, h.users, h.conversations.update hf, h.participants⟩

theorem setPresent (h : s.Counted n) (conversation character : Option Int) (present : Bool) :
    (s.setPresent conversation character present).Counted n := by
  refine ⟨h.isOpen, h.characters, h.users, h.conversations, fun p hp => ?_⟩
  obtain ⟨q, hq, rfl⟩ := List.mem_map.mp hp
  split
  · exact h.participants q hq
  · exact h.participants q hq

/-- One takes part in a conversation that is there. -/
theorem withParticipant (h : s.Counted n) {c x : Int} (hthere : s.hasConversation c = true) :
    (s.withParticipants
      (s.participants.insert fun id => { id, conversation := c, character := x }).1).Counted n := by
  refine ⟨h.isOpen, h.characters, h.users, h.conversations, fun p hp => ?_⟩
  rw [withParticipants, Table.rows_insert, List.mem_append, List.mem_singleton] at hp
  rcases hp with hp | rfl
  · exact h.participants p hp
  · rw [hasConversation, List.any_eq_true] at hthere
    obtain ⟨row, hrow, hid⟩ := hthere
    exact of_decide_eq_true hid ▸ (h.conversations.ids row hrow).2

/-- What makes users and personas. -/
theorem call (h : s.Counted n) (c : PersonaCall) : (s.call c).Counted (n + 1) := by
  cases c with
  | createUser name displayName description =>
    rw [Store.call]
    split
    · next t u hcreate =>
      obtain ⟨make, hmake, rfl⟩ := createUser_eq_ok hcreate
      have hnext := h.succ
      exact ⟨hnext.isOpen, hnext.characters, h.users.insert hmake, hnext.conversations,
        hnext.participants⟩
    · exact h.succ
  | createPersona user name description avatar active =>
    rw [Store.call]
    have hnext := h.succ
    split
    · next t p hcreate =>
      obtain ⟨-, v, name, -, -, rfl⟩ := createPersona_eq_ok hcreate
      split
      · exact hnext.congr rfl rfl rfl rfl rfl
      · exact hnext.congr rfl rfl rfl rfl rfl
    · exact hnext
  | setActive user persona =>
    have hnext := h.succ
    rw [Store.call]
    rcases setActive_cases s user persona with hs | ⟨chosen, hs⟩
    · rw [hs]
      exact hnext
    · rw [hs]
      exact hnext.congr rfl rfl rfl rfl rfl

/-- What makes, changes and deletes lore. -/
theorem callLore (h : s.Counted n) (c : LoreCall) : (s.callLore c).Counted (n + 1) := by
  rw [callLore_eq h.isOpen]
  exact h.succ.congr rfl rfl rfl rfl rfl

/-- **What a statement preserves.** It gives one number at most. -/
theorem after (h : s.Counted n) (q : Statement) : (s.after q).Counted (n + 1) := by
  have hnext := h.succ
  cases q with
  | persona c => exact h.call c
  | lore c => exact h.callLore c
  | createCharacter name cardText description postHistory =>
    refine h.keep_fst fun t c hcreate => ?_
    obtain ⟨make, hmake, rfl⟩ := createCharacter_eq_ok hcreate
    exact ⟨hnext.isOpen, h.characters.insert hmake, hnext.users, hnext.conversations,
      hnext.participants⟩
  | createConversation user primary scenario =>
    refine h.keep_fst fun t c hcreate => ?_
    obtain ⟨make, hmake, rfl⟩ := createConversation_eq_ok hcreate
    exact ⟨hnext.isOpen, hnext.characters, hnext.users, h.conversations.insert hmake,
      fun p hp => Int.le_add_one (h.participants p hp)⟩
  | setPrimary id primary =>
    refine h.keep fun t hset => ?_
    rw [setPrimary_eq_ok hset]
    exact hnext.changeConversation id fun _ => rfl
  | setWorldInfo id worldInfo =>
    refine h.keep fun t hset => ?_
    rw [setWorldInfo_eq_ok hset]
    exact hnext.changeConversation id fun _ => rfl
  | addMessage conversation role content sender =>
    refine h.keep_fst fun t m hadd => ?_
    obtain ⟨messages, rfl⟩ := addMessage_eq_ok hadd
    exact hnext.congr rfl rfl rfl rfl rfl
  | join conversation character =>
    refine h.keep fun t hjoin => ?_
    rcases join_cases hjoin with rfl | ⟨c, x, hthere, rfl⟩
    · exact hnext.setPresent conversation character true
    · exact hnext.withParticipant hthere
  | leave conversation character =>
    refine h.keep_fst fun t wasThere hleave => ?_
    rw [leave_eq_ok hleave]
    exact hnext.setPresent conversation character false

/-- **What a run of statements preserves.** -/
theorem foldl (h : s.Counted n) (qs : List Statement) :
    (qs.foldl Store.after s).Counted (n + qs.length) := by
  induction qs generalizing s n with
  | nil => exact h
  | cons q qs ih =>
    rw [List.length_cons, Nat.add_comm qs.length, ← Nat.add_assoc]
    exact ih (h.after q)

theorem hasRoom (h : s.Counted n) (hn : n + 1 < 2 ^ 63) : s.HasRoom where
  isOpen := h.isOpen
  conversation := h.conversations.fits_next hn
  participants := h.participants
  character := h.characters.fits_next hn
  user := h.users.fits_next hn
  users _ hu := h.users.fits (Nat.lt_of_succ_lt hn) hu

end Counted

/-- **A store that some statements have made has room for more**, as long as there are numbers. -/
theorem hasRoom_of_statements {qs : List Statement} (h : qs.length + 1 < 2 ^ 63) :
    (qs.foldl after .empty).HasRoom :=
  (Counted.empty.foldl qs).hasRoom (by rwa [Nat.zero_add])

end Store

end Roleplay
