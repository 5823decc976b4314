import Roleplay.CommandLine.Run
import Roleplay.Proofs.App.Journal
import Roleplay.Proofs.Store.Room

/-!
# What the opening of a conversation leaves

A conversation is opened by up to five statements, each of which stays when something fails behind
it. The card is read before the first of them, and behind the lookup of the scenario nothing fails
in a store with room for more. So there are three ways an opening goes: without a card nothing is
stored; with a card, but without the scenario that is asked for, the character stays and so does the
user, if there was none of the name; with both the conversation is stored too, its character takes
part in it, and the greeting is its first message.

## Main definitions

* `App.cardFile`, `App.scenarioNamed`: what an opening reads
* `Action.Yields`: what comes of an action, and the application after it

## Main results

* `App.yields_openConversation_of_error`, `App.yields_openConversation`: the three ways an opening
  goes
* `Command.new_account`: what the command leaves, whatever it finds
* `Command.new_leaves_rows`: a command that fails and leaves rows
-/

namespace Roleplay

open Text

/-! ## One store after another -/

/-- Messages that come one after another are new in their order. -/
theorem Store.newMessages_append {s s' s'' : Store} {m n : RowCount} (h : s.Gains s' m)
    (h' : s'.Gains s'' n) : s.newMessages s' ++ s'.newMessages s'' = s.newMessages s'' := by
  obtain ⟨rows, -, hrows⟩ := h.messages
  obtain ⟨rows', -, hrows'⟩ := h'.messages
  have hfirst : s.newMessages s' = rows := by rw [newMessages, hrows, List.drop_left]
  have hsecond : s'.newMessages s'' = rows' := by rw [newMessages, hrows', List.drop_left]
  rw [hfirst, hsecond, newMessages, hrows', hrows, List.append_assoc, List.drop_left]

namespace App

theorem withStore_self (a : App) : a.withStore a.store = a := by
  have hnew : a.store.newMessages a.store = [] := List.drop_length
  rw [withStore, hnew, List.map_nil, note, List.append_nil]

/-- Two statements that put rows behind those before are noted as one. -/
theorem withStore_withStore {a : App} {s s' : Store} {m n : RowCount} (h : a.store.Gains s m)
    (h' : s.Gains s' n) : (a.withStore s).withStore s' = a.withStore s' := by
  have hnew := Store.newMessages_append h h'
  show { a with store := s', journal := _ ++ _ ++ _ } = { a with store := s', journal := _ ++ _ }
  rw [← hnew, List.map_append, List.append_assoc]
  rfl

end App

/-! ## What comes of an action -/

namespace Action

variable {α β : Type} {a a' a'' : App}

/-- **What comes of an action**, and the application after it. -/
def Yields (act : Action α) (a : App) (r : Except Failure α) (a' : App) : Prop :=
  act.run.run a = (r, a')

/-- An action in which nothing happens leaves the application as it was. -/
theorem Does.yields {act : Action α} {r : Except Failure α} (h : Does act a [] r) :
    Yields act a r a := h

theorem Yields.bind {act : Action α} {f : α → Action β} {x : α} {r : Except Failure β}
    (h : Yields act a (.ok x) a') (h' : Yields (f x) a' r a'') : Yields (act >>= f) a r a'' := by
  rw [Yields, ← h']
  show (ExceptT.bindCont f (act.run.run a).1).run (act.run.run a).2 = _
  rw [h]
  rfl

theorem Yields.bind_error {act : Action α} {e : Failure} (h : Yields act a (.error e) a')
    (f : α → Action β) : Yields (act >>= f) a (.error e) a' := by
  show (ExceptT.bindCont f (act.run.run a).1).run (act.run.run a).2 = _
  rw [h]
  rfl

theorem yields_pure (x : α) (a : App) : Yields (pure x) a (.ok x) a := rfl

theorem yields_change {f : Store → Except Failure (Store × α)} {s : Store} {x : α}
    (h : f a.store = .ok (s, x)) : Yields (change f) a (.ok x) (a.withStore s) := by
  rw [change]
  refine (does_get a).yields.bind ?_
  rw [h]
  rfl

theorem yields_join {c x : Int} {s : Store} (h : a.store.join (some c) (some x) = .ok s) :
    Yields (change fun s => do return (← s.join (some c) (some x), ())) a (.ok ())
      (a.withStore s) :=
  yields_change (by rw [h]; rfl)

end Action

namespace App

open Roleplay.Action

variable {a : App}

/-! ## What an opening reads -/

/-- **What the file of a card holds**: its text and the card in it. -/
def cardFile (a : App) (file : Path) : Except Failure (Text × Card) :=
  match a.files.readText file with
  | .error f => .error (.ofText f)
  | .ok t =>
    match Card.read t with
    | .error f => .error (.card f)
    | .ok card => .ok (t, card)

/-- **The scenario that is asked for**, which must be there; no id and an empty one ask for none. -/
def scenarioNamed (a : App) (id : Option Text) : Except Failure (Option Scenario) :=
  if orEmpty id = [] then .ok none
  else
    match a.scenarios.get a.files (orEmpty id) with
    | .ok (some s) => .ok (some s)
    | .ok none => .error (.unknownScenario (orEmpty id))
    | .error e => .error e

theorem yields_readFile (file : Path) :
    Yields (readFile file) a ((a.files.readText file).mapError .ofText) a := by
  rw [readFile]
  refine (does_get a).yields.bind ?_
  cases a.files.readText file <;> rfl

theorem yields_readCard (t : Text) :
    Yields (readCard t) a ((Card.read t).mapError .card) a := by
  rw [readCard]
  cases Card.read t <;> rfl

theorem yields_scenarioBetween (id : Option Text) (character user : Text) :
    Yields (scenarioBetween id character user) a ((a.scenarioNamed id).map
      (·.map fun s => insertNames s.content (some character) (some user))) a := by
  rw [scenarioBetween, scenarioNamed]
  by_cases hid : orEmpty id = []
  · rw [if_pos hid, hid]
    rfl
  · have hempty : (orEmpty id).isEmpty = false := by simpa using hid
    rw [if_neg hid]
    simp only [hempty]
    refine (does_get a).yields.bind ?_
    rcases a.scenarios.get a.files (orEmpty id) with e | _ | s <;> rfl

/-- **The user of a name**, after whom there is one. -/
theorem yields_userNamed (h : a.store.isClosed = false)
    (hnext : Store.fits (a.store.users.lastId + 1) = true)
    (husers : ∀ u ∈ a.store.users.rows, Store.fits u.id = true) (name : Text) :
    ∃ id, Store.fits id = true ∧
      Yields (userNamed name) a (.ok id) (a.withStore (a.store.withUser name)) := by
  have hlook := (does_look (·.userId? (some name)) a).yields
  have hid : a.store.userId? (some name) =
      .ok ((a.store.users.find? fun u => some u.name = some name).map (·.id)) := by
    rw [Store.userId?, Store.accept_nil h]
    rfl
  rw [hid] at hlook
  cases hfind : a.store.users.find? fun u => some u.name = some name with
  | some u =>
    rw [hfind] at hlook
    have hmem := List.mem_of_find?_eq_some hfind
    have hname : u.name = name := by simpa using List.find?_some hfind
    have hany : a.store.users.rows.any (·.name = name) = true :=
      List.any_eq_true.mpr ⟨u, hmem, by simpa using hname⟩
    refine ⟨u.id, husers u hmem, ?_⟩
    rw [Store.withUser, if_pos hany, withStore_self]
    exact hlook.bind (yields_pure u.id a)
  | none =>
    rw [hfind] at hlook
    have hany : ¬ a.store.users.rows.any (·.name = name) = true := by
      simpa [Table.find?] using hfind
    have hcreate : a.store.createUser (some name) (some name) (some []) =
        .ok (a.store.withUser name,
          ⟨a.store.users.lastId + 1, name, some name, some [], none⟩) := by
      rw [Store.createUser, Store.accept_nil h, Store.withUser, if_neg hany]
      simp only [bind, Except.bind, Store.require, hany]
      rfl
    exact ⟨_, hnext, hlook.bind ((yields_change hcreate).bind (yields_pure _ _))⟩

/-- **The greeting of a card** is the first message, when there is one. -/
theorem yields_greet {c : Int} (h : a.store.isClosed = false) (hc : Store.fits c = true)
    (hthere : a.store.hasConversation c = true) (card : Card) (character user : Text) :
    ∃ (greeting : Option Text) (s : Store),
      Yields (greet c card character user) a (.ok greeting) (a.withStore s) ∧
        a.store.Gains s { messages := if card.greeting = [] then 0 else 1 } := by
  rw [greet]
  by_cases hgreeting : card.greeting = []
  · rw [hgreeting]
    refine ⟨none, a.store, ?_, .refl _⟩
    rw [withStore_self]
    rfl
  · have hempty : card.greeting.isEmpty = false := by simpa using hgreeting
    have hadd := Store.addMessage_eq h hc hthere Role.assistant.word
      (insertNames card.greeting (some character) (some user)) (some character)
    rw [if_neg hgreeting]
    simp only [hempty]
    exact ⟨_, _, (yields_change hadd).bind (yields_pure _ _), Store.gains_withMessage _ _ _ _ _⟩

theorem cardFile_eq_ok_iff {file : Path} {t : Text} {card : Card} :
    a.cardFile file = .ok (t, card) ↔
      a.files.readText file = .ok t ∧ Card.read t = .ok card := by
  constructor
  · intro h
    rw [cardFile] at h
    split at h
    · cases h
    · next u hu =>
      split at h
      · cases h
      · next c hc =>
        cases h
        exact ⟨hu, hc⟩
  · rintro ⟨ht, hcard⟩
    rw [cardFile, ht]
    dsimp only
    rw [hcard]

/-- An opening without a card stores nothing. -/
theorem yields_openConversation_of_error {file : Path} {e : Failure}
    (h : a.cardFile file = .error e) (user : Text) (scenario : Option Text) :
    Yields (openConversation file user scenario) a (.error e) a := by
  rw [openConversation]
  have hread := yields_readFile (a := a) file
  rw [cardFile] at h
  cases htext : a.files.readText file with
  | error f =>
    rw [htext] at h hread
    cases h
    exact hread.bind_error _
  | ok t =>
    rw [htext] at h hread
    refine hread.bind ?_
    have hcard := yields_readCard (a := a) t
    dsimp only at h
    cases hc : Card.read t with
    | error f =>
      rw [hc] at h hcard
      cases h
      exact hcard.bind_error _
    | ok card =>
      rw [hc] at h
      cases h

/-- Nobody takes part in a conversation that is yet to come. -/
theorem any_isParticipant_next {s : Store} (h : s.TakesConversation) (character : Int) :
    s.participants.rows.any
      (Store.isParticipant (some (s.conversations.lastId + 1)) (some character)) = false := by
  rw [List.any_eq_false]
  intro p hp hparticipant
  obtain ⟨hid, -⟩ := Participants.isParticipant_iff.mp hparticipant
  have := h.participants p hp
  omega

/-- What an opening does when it has character, user and scenario. -/
def storeConversation (userId : Int) (character : Character) (card : Card) (user : Text)
    (scenario : Option Text) : Action Opening := do
  let conversation ← Action.change
    (·.createConversation (some userId) (some character.id) scenario)
  Action.change fun s => do return (← s.join (some conversation.id) (some character.id), ())
  return ⟨conversation.id, character.name, ← greet conversation.id card character.name user⟩

theorem openConversation_eq (file : Path) (user : Text) (scenario : Option Text) :
    openConversation file user scenario = (do
      let text ← readFile file
      let card ← readCard text
      let name := card.name.orElse file.stem
      let character ← Action.change (·.createCharacter (some name) (some text) none none)
      let userId ← userNamed user
      let scenario ← scenarioBetween scenario character.name user
      storeConversation userId character card user scenario) := rfl

/-- **The conversation is stored**, its character takes part in it, and the greeting is its first
message. -/
theorem yields_storeConversation (h : a.store.TakesConversation) {userId : Int}
    (huserId : Store.fits userId = true) (character : Character)
    (hcharacter : Store.fits character.id = true)
    (hthere : a.store.hasCharacter character.id = true) (card : Card) (user : Text)
    (scenario : Option Text) :
    ∃ (o : Opening) (s : Store),
      Yields (storeConversation userId character card user scenario) a (.ok o) (a.withStore s) ∧
        a.store.Gains s { conversations := 1, participants := 1,
                          messages := if card.greeting = [] then 0 else 1 } := by
  have hconversation := Store.createConversation_eq h.isOpen huserId hcharacter hthere scenario
  have hin := a.store.hasConversation_withConversation userId character.id scenario
  have hopened := a.store.gains_withConversation userId character.id scenario
  set opened := a.store.withConversation userId character.id scenario
  have hjoin := Store.join_eq (s := opened) h.isOpen h.conversation hcharacter ⟨hin, hthere⟩
    (any_isParticipant_next h character.id)
  have hjoined := opened.gains_withParticipant fun id =>
    { id, conversation := a.store.conversations.lastId + 1, character := character.id }
  set joined := opened.withParticipants (opened.participants.insert fun id =>
    { id, conversation := a.store.conversations.lastId + 1, character := character.id }).1
  obtain ⟨greeting, s, hgreet, hgreeted⟩ := yields_greet (a := a.withStore joined)
    h.isOpen h.conversation hin card character.name user
  have hjoins := yields_join (a := a.withStore opened) hjoin
  rw [withStore_withStore hopened hjoined] at hjoins
  rw [withStore_withStore (hopened.trans hjoined) hgreeted] at hgreet
  refine ⟨⟨a.store.conversations.lastId + 1, character.name, greeting⟩, s, ?_, ?_⟩
  · rw [storeConversation]
    refine (yields_change hconversation).bind ?_
    refine hjoins.bind ?_
    exact hgreet.bind (yields_pure _ _)
  · have hall := (hopened.trans hjoined).trans hgreeted
    simpa only [RowCount.add_eq, Nat.zero_add, Nat.add_zero] using hall

/-- **An opening with a card** stores the character and the user; where the scenario is there that
is asked for, it stores the conversation too. -/
theorem yields_openConversation (h : a.store.HasRoom) {file : Path} {t : Text} {card : Card}
    (hcard : a.cardFile file = .ok (t, card)) (user : Text) (scenario : Option Text) :
    ∃ (r : Except Failure Opening) (s : Store),
      Yields (openConversation file user scenario) a r (a.withStore s) ∧
        match a.scenarioNamed scenario with
        | .error e => r = .error e ∧
            a.store.Gains s { characters := 1, users := a.store.missingUsers user }
        | .ok _ => (∃ o, r = .ok o) ∧
            a.store.Gains s
              { characters := 1, users := a.store.missingUsers user, conversations := 1,
                participants := 1, messages := if card.greeting = [] then 0 else 1 } := by
  obtain ⟨htext, hread⟩ := cardFile_eq_ok_iff.mp hcard
  have hreads := yields_readFile (a := a) file
  have hreadCard := yields_readCard (a := a) t
  rw [htext] at hreads
  rw [hread] at hreadCard
  -- the character and the user are stored, whatever comes of the scenario
  set name := card.name.orElse file.stem
  have hcharacter := Store.createCharacter_eq h.isOpen name t
  have hthere := a.store.hasCharacter_withCharacter name t
  obtain ⟨userId, huserId, huser⟩ := yields_userNamed
    (a := a.withStore (a.store.withCharacter name t)) h.isOpen h.user h.users user
  obtain ⟨users, husers⟩ := (a.store.withCharacter name t).exists_withUser user
  have hgains := (Store.gains_withCharacter a.store name t).trans (Store.gains_withUser _ user)
  rw [store_withStore, withStore_withStore (Store.gains_withCharacter a.store name t)
    (Store.gains_withUser _ user)] at huser
  have hmissing : (a.store.withCharacter name t).missingUsers user = a.store.missingUsers user :=
    rfl
  rw [husers] at hgains huser
  rw [hmissing] at hgains
  set stored : Store := { a.store.withCharacter name t with users }
  have hscenario := yields_scenarioBetween (a := a.withStore stored) scenario name user
  have hsame : (a.withStore stored).scenarioNamed scenario = a.scenarioNamed scenario := rfl
  rw [hsame] at hscenario
  rw [openConversation_eq]
  cases hnamed : a.scenarioNamed scenario with
  | error e =>
    rw [hnamed] at hscenario
    refine ⟨.error e, stored, ?_, rfl, ?_⟩
    · refine hreads.bind ?_
      refine hreadCard.bind ?_
      refine (yields_change hcharacter).bind ?_
      refine huser.bind ?_
      exact hscenario.bind_error _
    · simpa only [RowCount.add_eq, Nat.zero_add, Nat.add_zero] using hgains
  | ok found =>
    rw [hnamed] at hscenario
    obtain ⟨o, s, hstore, hmore⟩ := yields_storeConversation (a := a.withStore stored)
      ⟨h.isOpen, h.conversation, h.participants⟩ huserId
      { id := a.store.characters.lastId + 1, name, cardText := t } h.character hthere card user
      (found.map fun s => insertNames s.content (some name) (some user))
    rw [withStore_withStore hgains hmore] at hstore
    refine ⟨.ok o, s, ?_, ⟨o, rfl⟩, ?_⟩
    · refine hreads.bind ?_
      refine hreadCard.bind ?_
      refine (yields_change hcharacter).bind ?_
      refine huser.bind ?_
      refine hscenario.bind ?_
      exact hstore
    · have hall := hgains.trans hmore
      simpa only [RowCount.add_eq, Nat.zero_add, Nat.add_zero] using hall

end App

namespace Command

open Roleplay.Action

/-- **What the command leaves.** Without a card the store is left as it was. With a card it has one
more character, and one more user if there was none of the name; that stays also when the scenario
is missing or cannot be read, and then it is all that stays. Otherwise there is one more
conversation too, one more participant, and one more message exactly when the card has a
greeting. -/
theorem new_account {a : App} (h : a.store.HasRoom) (file : Path) (user : Text)
    (scenario : Option Text) :
    ∃ (r : Except Failure Text) (s : Store),
      Yields (Command.new file user scenario).action a r (a.withStore s) ∧
        match a.cardFile file, a.scenarioNamed scenario with
        | .error e, _ => r = .error e ∧ s = a.store
        | .ok _, .error e => r = .error e ∧
            a.store.Gains s { characters := 1, users := a.store.missingUsers user }
        | .ok (_, card), .ok _ => (∃ t, r = .ok t) ∧
            a.store.Gains s
              { characters := 1, users := a.store.missingUsers user, conversations := 1,
                participants := 1, messages := if card.greeting = [] then 0 else 1 } := by
  cases hcard : a.cardFile file with
  | error e =>
    have hopening := App.yields_openConversation_of_error hcard user scenario
    refine ⟨.error e, a.store, ?_, rfl, rfl⟩
    rw [App.withStore_self]
    exact hopening.bind_error _
  | ok found =>
    obtain ⟨t, card⟩ := found
    obtain ⟨r, s, hopening, haccount⟩ := App.yields_openConversation h hcard user scenario
    cases hscenario : a.scenarioNamed scenario with
    | error e =>
      rw [hscenario] at haccount
      obtain ⟨rfl, hgains⟩ := haccount
      exact ⟨.error e, s, hopening.bind_error _, rfl, hgains⟩
    | ok found =>
      rw [hscenario] at haccount
      obtain ⟨⟨o, rfl⟩, hgains⟩ := haccount
      exact ⟨.ok (openingText o), s, hopening.bind (yields_pure _ _), ⟨_, rfl⟩, hgains⟩

/-- The text of a card with a greeting. -/
def ariaCard : Text :=
  "\x7b\"name\": \"Aria\", \"first_mes\": \"Hello!\"\x7d"

/-- An application with a card file, a scenario and an empty store. -/
def ariaApp : App where
  store := {}
  files := ⟨[(["work"], .directory), (["work", "aria.json"], .file ariaCard.utf8),
    (["work", "scenarios"], .directory),
    (["work", "scenarios", "inn.txt"], .file (utf8 "An inn."))], ["work"]⟩
  log := ⟨.here, 5, 0⟩
  templates := ⟨.here⟩
  settings := ⟨.here⟩
  scenarios := ⟨.ofText "scenarios"⟩
  moment := default
  gateway := fun _ => .error (.gateway "timeout")

theorem hasRoom_ariaApp : ariaApp.store.HasRoom :=
  ⟨⟨rfl, by decide, fun _ h => by cases h⟩, by decide, by decide, fun _ h => by cases h⟩

theorem cardFile_ariaApp : ariaApp.cardFile (.ofText "aria.json") =
    .ok (ariaCard, { name := "Aria", greeting := "Hello!" }) := by
  refine App.cardFile_eq_ok_iff.mpr ⟨rfl, ?_⟩
  -- the kernel reads the card
  decide +kernel

/-- A conversation in the scenario that is there. -/
theorem new_account_inn :
    ∃ (t : Text) (s : Store),
      Yields (Command.new (.ofText "aria.json") "jordan" (some "inn")).action ariaApp (.ok t)
          (ariaApp.withStore s) ∧
        ariaApp.store.Gains s ⟨1, 1, 1, 1, 1⟩ := by
  have hroom := hasRoom_ariaApp
  have hcard := cardFile_ariaApp
  have hscenario : ariaApp.scenarioNamed (some "inn") =
      .ok (some ⟨"inn", "Inn", "An inn."⟩) := rfl
  have huser : ariaApp.store.missingUsers "jordan" = 1 := rfl
  -- the application is kept closed, so that nothing computes with its files
  generalize ariaApp = a at *
  obtain ⟨r, s, hrun, haccount⟩ := new_account hroom (.ofText "aria.json") "jordan" (some "inn")
  rw [hcard, hscenario, huser] at haccount
  obtain ⟨⟨t, rfl⟩, hgains⟩ := haccount
  exact ⟨t, s, hrun, hgains⟩

/-- **A command that fails may leave rows**: without the scenario a character stays, and a user. -/
theorem new_leaves_rows :
    (∃ s, Yields (Command.new (.ofText "aria.json") "jordan" (some "nope")).action ariaApp
        (.error (.unknownScenario "nope")) (ariaApp.withStore s) ∧
        ariaApp.store.Gains s { characters := 1, users := 1 }) ∧
      ¬ ∀ (a a' : App) (file : Path) (user : Text) (scenario : Option Text) (e : Failure),
        Yields (Command.new file user scenario).action a (.error e) a' →
        a'.store.characters.rows = a.store.characters.rows ∧
          a'.store.users.rows = a.store.users.rows := by
  have hroom := hasRoom_ariaApp
  have hcard := cardFile_ariaApp
  have hscenario : ariaApp.scenarioNamed (some "nope") = .error (.unknownScenario "nope") := rfl
  have huser : ariaApp.store.missingUsers "jordan" = 1 := rfl
  generalize ariaApp = a at *
  obtain ⟨r, s, hopening, haccount⟩ :=
    App.yields_openConversation hroom hcard "jordan" (some "nope")
  rw [hscenario, huser] at haccount
  obtain ⟨rfl, hgains⟩ := haccount
  have hrun : Yields (Command.new (.ofText "aria.json") "jordan" (some "nope")).action a
      (.error (.unknownScenario "nope")) (a.withStore s) := hopening.bind_error _
  refine ⟨⟨s, hrun, hgains⟩, fun hall => ?_⟩
  obtain ⟨rows, hlength, hrows⟩ := hgains.characters
  have hkept : s.characters.rows = a.store.characters.rows := (hall _ _ _ _ _ _ hrun).1
  rw [hkept, List.self_eq_append_right] at hrows
  rw [hrows] at hlength
  cases hlength

end Command

end Roleplay
