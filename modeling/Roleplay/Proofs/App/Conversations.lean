import Roleplay.Proofs.App.Journal

/-!
# What is stored and told in a conversation

A user sends messages, has messages suggested, has things narrated and the state of the world made
anew, one demand after another and with any answer of the model to each. What is noted at each
demand is known up to its last exit: which messages are stored, which events are told, when a
generation begins and which calls it makes, in the order in which this happens. It follows that a
conversation grows only at its end and that its subscribers are told every message that is stored,
once.

## Main definitions

* `App.Demand`, `App.Turn`, `App.turn`, `App.after`: what a user demands, and what it changes
* `Store.present`, `Store.loaded`: the conversation and the character of a demand
* `Happening.written`, `Happening.typed`: a message stored and announced, a generation between two
  typing events
* `App.Answered`: a message generated and stored
* `App.Demand.Account`: what happens at a demand, and what comes of it
* `App.Chronicle`: the journals of some turns, as they are noted

## Main results

* `App.turn_account`: the account of every demand is right
* `App.conversations_consistent`: what is stored and told in a run
-/

namespace Roleplay

/-! ## Messages stored and announced -/

/-- A stored message as a message of a role. -/
def StoredMessage.message (m : StoredMessage) (role : Role) : Message :=
  ⟨role, m.content, m.sender, some m.id, some m.conversation⟩

theorem StoredMessage.read_eq_message {m : StoredMessage} {role : Role} (h : m.role = role.word) :
    m.read = .ok (m.message role) := by
  rw [read, h, Role.ofWord?_word]
  rfl

namespace Happening

/-- **A message stored**, and announced to the subscribers of its conversation. -/
def written (role : Role) (m : StoredMessage) : List Happening :=
  [.stored m, .told m.conversation (.newMessage (m.message role))]

/-- **A generation** between two typing events. -/
def typed (conversation : Int) (calls : List Call) : List Happening :=
  .told conversation (.typing true) :: generated calls ++ [.told conversation (.typing false)]

@[simp] theorem storedIn_typed (c : Int) (calls : List Call) : storedIn (typed c calls) = [] := by
  show storedIn (generated calls ++ [.told c (.typing false)]) = []
  rw [storedIn_append, storedIn_generated]
  rfl

@[simp] theorem announcedIn_typed (c : Int) (calls : List Call) :
    announcedIn (typed c calls) = [] := by
  show announcedIn (generated calls ++ [.told c (.typing false)]) = []
  rw [announcedIn_append, announcedIn_generated]
  rfl

end Happening

open Happening (generated written typed storedIn toldIn announcedIn)

namespace App

/-- **The message that is stored next** in a conversation. -/
def nextMessage (a : App) (conversation : Int) (role : Role) (content : Text)
    (sender : Option Text) : StoredMessage :=
  ⟨a.store.messages.lastId + 1, conversation, role.word, content, sender⟩

/-- A conversation that takes messages has one stored and announced. -/
theorem does_storeMessage {a : App} {c : Int} (h : a.store.Takes c) (role : Role) (content : Text)
    (sender : Option Text) :
    (storeMessage c role content sender).Does a (written role (a.nextMessage c role content sender))
      (.ok ((a.nextMessage c role content sender).message role)) := by
  have hadd : a.store.addMessage (some c) (some role.word) (some content) sender =
      .ok ((a.replay (.stored (a.nextMessage c role content sender))).store,
        a.nextMessage c role content sender) := by
    rw [Store.addMessage, h.isOpen]
    show (Store.requireRow (a.store.hasConversation c) >>= fun _ => _) = _
    rw [h.isThere]
    rfl
  have hstored := Action.does_change
    (f := (·.addMessage (some c) (some role.word) (some content) sender)) hadd
  exact hstored.bind ((Action.does_emit _ _ _).bind (Action.does_pure _ _))

/-- **The history after a message** is the one before it and the message. -/
theorem history_written {a : App} {id : Option Int} {role : Role} {m : StoredMessage}
    (hid : some m.conversation = id) (hrole : m.role = role.word) :
    (a.replayAll (written role m)).store.history id =
      (a.store.history id).map (· ++ [m.message role]) := by
  have hmessages : (a.replayAll (written role m)).store.messagesOf id =
      a.store.messagesOf id ++ [m] := by
    show List.filter _ (a.store.messages.rows ++ [m]) = _
    rw [List.filter_append, List.filter_cons_of_pos (by simpa using hid)]
    rfl
  have haccept : (a.replayAll (written role m)).store.accept [id] = a.store.accept [id] := rfl
  rw [Store.history, Store.history, haccept, hmessages]
  cases a.store.accept [id] with
  | error e => rfl
  | ok =>
    show (a.store.messagesOf id ++ [m]).mapM StoredMessage.read =
      ((a.store.messagesOf id).mapM StoredMessage.read).map _
    -- a role that is written can be read, so only the messages before can fail
    rw [List.mapM_append]
    cases (a.store.messagesOf id).mapM StoredMessage.read with
    | error e => rfl
    | ok ms =>
      rw [List.mapM_cons, StoredMessage.read_eq_message hrole]
      rfl

end App

/-! ## The conversation and the character of a demand -/

namespace Store

/-- **The conversation of an id**, which must be there. -/
def present (s : Store) (id : Option Int) : Except Failure Conversation := do
  match ← s.conversation? id with
  | some c => return c
  | none => throw (.unknownConversation id)

/-- The character that is given, or else the primary one of a conversation. -/
def subject? (s : Store) (id character : Option Int) : Except Failure (Option Character) :=
  if character.isSome then s.character? character else s.primaryCharacter? id

/-- **The conversation of an id and its character**, which must be there. -/
def loaded (s : Store) (id character : Option Int) : Except Failure (Conversation × Character) := do
  let c ← s.present id
  match ← s.subject? id character with
  | some ch => return (c, ch)
  | none => throw (.noCharacter id)

/-- A conversation that is there has its id, and takes messages. -/
theorem takes_of_present {s : Store} {id : Option Int} {c : Conversation}
    (h : s.present id = .ok c) :
    some c.id = id ∧ s.Takes c.id := by
  rw [present, conversation?] at h
  cases haccept : s.accept [id] with
  | error e =>
    rw [haccept] at h
    cases h
  | ok =>
    rw [haccept] at h
    cases hfind : s.conversations.find? fun c => some c.id = id with
    | none =>
      simp only [hfind] at h
      cases h
    | some c' =>
      simp only [hfind] at h
      cases h
      have hid : some c.id = id := by simpa using List.find?_some hfind
      refine ⟨hid, ?_, ?_⟩
      · rw [hid]
        exact haccept
      · exact List.any_eq_true.mpr ⟨c, List.mem_of_find?_eq_some hfind, decide_eq_true rfl⟩

theorem takes_of_loaded {s : Store} {id character : Option Int} {c : Conversation} {ch : Character}
    (h : s.loaded id character = .ok (c, ch)) : some c.id = id ∧ s.Takes c.id := by
  rw [loaded] at h
  cases hpresent : s.present id with
  | error e =>
    rw [hpresent] at h
    cases h
  | ok c' =>
    -- the character that is found does not change the conversation
    have hc : c' = c := by
      rw [hpresent] at h
      change (s.subject? id character >>= fun _ => _) = _ at h
      cases hsubject : s.subject? id character with
      | error e =>
        rw [hsubject] at h
        cases h
      | ok found =>
        rw [hsubject] at h
        cases found with
        | none => cases h
        | some ch' =>
          cases h
          rfl
    exact hc ▸ takes_of_present hpresent

end Store

namespace App

theorem does_requireConversation (id : Option Int) (a : App) :
    (requireConversation id).Does a [] (a.store.present id) := by
  have hlook := Action.does_look (·.conversation? id) a
  rw [Store.present]
  cases hfound : a.store.conversation? id with
  | error e =>
    rw [hfound] at hlook
    exact hlook.bind_error _
  | ok found =>
    rw [hfound] at hlook
    apply hlook.bind
    cases found with
    | none => exact Action.does_throw _ _
    | some c => exact Action.does_pure _ _

theorem does_load (id character : Option Int) (a : App) :
    (load id character).Does a [] (a.store.loaded id character) := by
  have hpresent := does_requireConversation id a
  rw [Store.loaded]
  cases hc : a.store.present id with
  | error e =>
    rw [hc] at hpresent
    exact hpresent.bind_error _
  | ok c =>
    rw [hc] at hpresent
    apply hpresent.bind
    have hlook := Action.does_look (·.subject? id character) a
    show Action.Does _ _ _ (a.store.subject? id character >>= fun _ => _)
    cases hfound : a.store.subject? id character with
    | error e =>
      rw [hfound] at hlook
      exact hlook.bind_error _
    | ok found =>
      rw [hfound] at hlook
      apply hlook.bind
      cases found with
      | none => exact Action.does_throw _ _
      | some ch => exact Action.does_pure _ _

/-! ## Demands -/

/-- **What a user demands** of a conversation. -/
inductive Demand
  | send (id : Option Int) (content : Text)
  | impersonate (id : Option Int) (style : Option Text)
  | narrate (id : Option Int) (kind : Text) (item : Option ItemContext) (character : Option Int)
  | narrateScene (id : Option Int) (kind : Text) (context : SceneContext)
  | refresh (id : Option Int)

/-- What a user is given. -/
inductive Outcome
  | message (m : Message)
  | suggestion (t : Text)
  | world (s : WorldState)

/-- **The action of a demand.** -/
def Demand.action : Demand → Action Outcome
  | send id content => .message <$> sendMessage id content
  | impersonate id style => .suggestion <$> App.impersonate id style
  | narrate id kind item character => .message <$> App.narrate id kind item character
  | narrateScene id kind context => .message <$> App.narrateScene id kind context
  | refresh id => .world <$> refreshWorld id

/-- A generation with the settings of replies. -/
def chat (f : App → Settings → Trace Generated) (a : App) : Trace Generated := do
  let settings ← .ofExcept (a.settingsOf .chat)
  f a settings

/-- **A message is generated and stored**: someone writes while it is generated, and then it is
stored and announced; nothing is stored when the generation fails. -/
def Answered (a : App) (conversation : Int) (role : Role) (sender : Text)
    (generation : App → Trace Generated) (j : List Happening) (r : Except Failure Message) : Prop :=
  let t := generation (a.replay (.told conversation (.typing true)))
  match t.outcome with
  | .error e => j = typed conversation t.calls ∧ r = .error e
  | .ok g =>
    let m := a.nextMessage conversation role g.content (some sender)
    j = typed conversation t.calls ++ written role m ∧ r = .ok (m.message role)

/-- **What happens at a demand**, and what comes of it, on every exit. -/
def Demand.Account (a : App) (j : List Happening) (r : Except Failure Outcome) : Demand → Prop
  | send id content =>
    match a.store.loaded id none with
    | .error e => j = [] ∧ r = .error e
    | .ok (c, ch) =>
      let m := a.nextMessage c.id .user content none
      match a.store.history id with
      | .error e => j = written .user m ∧ r = .error e
      | .ok past => ∃ j' r', j = written .user m ++ j' ∧ r = r'.map .message ∧
        Answered (a.replayAll (written .user m)) c.id .assistant ch.name
          (chat fun b settings => generateReply b.collaborators (past ++ [m.message .user]) ch
            settings (some "chat") id c.scenario (some c.user)) j' r'
  | impersonate id style =>
    match a.store.loaded id none, a.store.history id with
    | .error e, _ => j = [] ∧ r = .error e
    | .ok _, .error e => j = [] ∧ r = .error e
    | .ok (c, ch), .ok past =>
      let t := chat (fun b settings => generateImpersonation b.collaborators past ch settings style
        (some c.user) id c.scenario) a
      j = generated t.calls ∧ r = t.outcome.map (.suggestion ·.content)
  | narrate id kind item character =>
    if kind = itemNarration ∧ item = none then j = [] ∧ r = .error .noItem
    else match a.store.loaded id character, a.store.history id with
    | .error e, _ => j = [] ∧ r = .error e
    | .ok _, .error e => j = [] ∧ r = .error e
    | .ok (c, ch), .ok past => ∃ r', r = r'.map .message ∧
      Answered a c.id .narrator narratorName
        (chat fun b settings => generateNarration b.collaborators past ch settings kind id item
          c.scenario (some c.user)) j r'
  | narrateScene id kind context =>
    match a.store.present id with
    | .error e => j = [] ∧ r = .error e
    | .ok c => ∃ r', r = r'.map .message ∧
      Answered a c.id .narrator narratorName
        (fun b => generateSceneNarration b.collaborators (some b.sceneSource) (some c.user) id kind
          context) j r'
  | refresh id =>
    match a.store.loaded id none with
    | .error e => j = [] ∧ r = .error e
    | .ok (c, ch) =>
      match a.store.addressee (some c.user), a.store.recent id worldHistory with
      | .error e, _ => j = [] ∧ r = .error e
      | .ok _, .error e => j = [] ∧ r = .error e
      | .ok user, .ok recent =>
        let t := generateAndKeepWorld a.collaborators (a.settingsOf .decision) id ch user.name
          (transcript recent user.name (some ch.name)) (.ofNames (some ch.name) (some user.name))
          c.scenario
        match t.outcome with
        | .error e => j = generated t.calls ∧ r = .error e
        | .ok s => j = generated t.calls ++ [.told c.id (.worldState s)] ∧ r = .ok (.world s)

/-! ## The account of each demand -/

/-- What is generated while someone writes is stored, unless the generation fails. -/
theorem answered_of_takes {a : App} {c : Int} (h : a.store.Takes c) (role : Role) (sender : Text)
    (generation : App → Trace Generated) :
    ∃ j r, Answered a c role sender generation j r ∧
      (do
        let g ← Action.whileTyping c (Action.generate generation)
        storeMessage c role g.content (some sender)).Does a j r := by
  have htyped : (Action.whileTyping c (Action.generate generation)).Does a
      (typed c (generation (a.replay (.told c (.typing true)))).calls)
      (generation (a.replay (.told c (.typing true)))).outcome :=
    Action.does_whileTyping (Action.does_generate generation (a.replay (.told c (.typing true))))
  simp only [Answered]
  cases houtcome : (generation (a.replay (.told c (.typing true)))).outcome with
  | error e =>
    rw [houtcome] at htyped
    exact ⟨_, _, ⟨rfl, rfl⟩, htyped.bind_error _⟩
  | ok g =>
    rw [houtcome] at htyped
    refine ⟨_, _, ⟨rfl, rfl⟩, htyped.bind ?_⟩
    have hstore := does_storeMessage (takes_replayAll h (typed c
      (generation (a.replay (.told c (.typing true)))).calls)) role g.content (some sender)
    -- no message has been stored in between, so the id is the one it had before
    rw [nextMessage, messages_replayAll (Happening.storedIn_typed _ _)] at hstore
    exact hstore

theorem sendMessage_account (a : App) (id : Option Int) (content : Text) :
    ∃ j r, (sendMessage id content).Does a j r ∧
      (Demand.send id content).Account a j (r.map .message) := by
  have hload := does_load id none a
  simp only [Demand.Account]
  cases hloaded : a.store.loaded id none with
  | error e =>
    rw [hloaded] at hload
    exact ⟨[], .error e, hload.bind_error _, rfl, rfl⟩
  | ok found =>
    obtain ⟨c, ch⟩ := found
    rw [hloaded] at hload
    obtain ⟨hid, htakes⟩ := Store.takes_of_loaded hloaded
    -- the history is looked up after the message is stored, and ends with it
    have hstore := does_storeMessage htakes .user content none
    have hhistory := Action.does_look (·.history id)
      (a.replayAll (written .user (a.nextMessage c.id .user content none)))
    rw [history_written hid rfl] at hhistory
    dsimp only
    cases hpast : a.store.history id with
    | error e =>
      rw [hpast] at hhistory
      exact ⟨_, .error e, hload.bind_of_nil (hstore.bind (hhistory.bind_error _)),
        List.append_nil _, rfl⟩
    | ok past =>
      rw [hpast] at hhistory
      obtain ⟨j, r, hanswered, hdoes⟩ := answered_of_takes
        (takes_replayAll htakes (written .user (a.nextMessage c.id .user content none)))
        .assistant ch.name
        (chat fun b settings => generateReply b.collaborators
          (past ++ [(a.nextMessage c.id .user content none).message .user]) ch settings
          (some "chat") id c.scenario (some c.user))
      exact ⟨_, r, hload.bind_of_nil (hstore.bind (hhistory.bind_of_nil hdoes)), j, r, rfl, rfl,
        hanswered⟩

theorem impersonate_account (a : App) (id : Option Int) (style : Option Text) :
    ∃ j r, (App.impersonate id style).Does a j r ∧
      (Demand.impersonate id style).Account a j (r.map .suggestion) := by
  have hload := does_load id none a
  have hhistory := Action.does_look (·.history id) a
  simp only [Demand.Account]
  cases hloaded : a.store.loaded id none with
  | error e =>
    rw [hloaded] at hload
    exact ⟨[], .error e, hload.bind_error _, rfl, rfl⟩
  | ok found =>
    obtain ⟨c, ch⟩ := found
    rw [hloaded] at hload
    cases hpast : a.store.history id with
    | error e =>
      rw [hpast] at hhistory
      exact ⟨[], .error e, hload.bind_of_nil (hhistory.bind_error _), rfl, rfl⟩
    | ok past =>
      rw [hpast] at hhistory
      have hgenerate := (Action.does_generate (chat fun b settings =>
        generateImpersonation b.collaborators past ch settings style (some c.user) id c.scenario)
        a).map (·.content)
      rw [map_eq_pure_bind] at hgenerate
      exact ⟨_, _, hload.bind_of_nil (hhistory.bind_of_nil hgenerate), rfl,
        Functor.map_map (f := Except Failure) _ _ _⟩

theorem narrate_account (a : App) (id : Option Int) (kind : Text) (item : Option ItemContext)
    (character : Option Int) :
    ∃ j r, (App.narrate id kind item character).Does a j r ∧
      (Demand.narrate id kind item character).Account a j (r.map .message) := by
  have hload := does_load id character a
  have hhistory := Action.does_look (·.history id) a
  simp only [Demand.Account]
  -- a missing item fails before anything is looked up
  by_cases hitem : kind = itemNarration ∧ item = none
  · simp only [if_pos hitem]
    refine ⟨[], .error .noItem, ?_, rfl, rfl⟩
    rw [App.narrate, if_pos hitem]
    exact (Action.does_throw _ _).bind_error _
  simp only [if_neg hitem]
  cases hloaded : a.store.loaded id character with
  | error e =>
    rw [hloaded] at hload
    refine ⟨[], .error e, ?_, rfl, rfl⟩
    rw [App.narrate, if_neg hitem]
    exact hload.bind_error _
  | ok found =>
    obtain ⟨c, ch⟩ := found
    rw [hloaded] at hload
    cases hpast : a.store.history id with
    | error e =>
      rw [hpast] at hhistory
      refine ⟨[], .error e, ?_, rfl, rfl⟩
      rw [App.narrate, if_neg hitem]
      exact hload.bind_of_nil (hhistory.bind_error _)
    | ok past =>
      rw [hpast] at hhistory
      obtain ⟨j, r, hanswered, hdoes⟩ := answered_of_takes (Store.takes_of_loaded hloaded).2
        .narrator narratorName
        (chat fun b settings => generateNarration b.collaborators past ch settings kind id item
          c.scenario (some c.user))
      refine ⟨j, r, ?_, r, rfl, hanswered⟩
      rw [App.narrate, if_neg hitem]
      exact hload.bind_of_nil (hhistory.bind_of_nil hdoes)

theorem narrateScene_account (a : App) (id : Option Int) (kind : Text) (context : SceneContext) :
    ∃ j r, (App.narrateScene id kind context).Does a j r ∧
      (Demand.narrateScene id kind context).Account a j (r.map .message) := by
  have hpresent := does_requireConversation id a
  simp only [Demand.Account]
  cases hc : a.store.present id with
  | error e =>
    rw [hc] at hpresent
    exact ⟨[], .error e, hpresent.bind_error _, rfl, rfl⟩
  | ok c =>
    rw [hc] at hpresent
    obtain ⟨j, r, hanswered, hdoes⟩ := answered_of_takes (Store.takes_of_present hc).2 .narrator
      narratorName
      (fun b => generateSceneNarration b.collaborators (some b.sceneSource) (some c.user) id kind
        context)
    exact ⟨j, r, hpresent.bind_of_nil hdoes, r, rfl, hanswered⟩

theorem refreshWorld_account (a : App) (id : Option Int) :
    ∃ j r, (refreshWorld id).Does a j r ∧ (Demand.refresh id).Account a j (r.map .world) := by
  have hload := does_load id none a
  simp only [Demand.Account]
  cases hloaded : a.store.loaded id none with
  | error e =>
    rw [hloaded] at hload
    exact ⟨[], .error e, hload.bind_error _, rfl, rfl⟩
  | ok found =>
    obtain ⟨c, ch⟩ := found
    rw [hloaded] at hload
    -- four steps can fail, and only after the last one is anything told
    have haddressee := Action.does_look (·.addressee (some c.user)) a
    have hrecent := Action.does_look (·.recent id worldHistory) a
    dsimp only
    cases huser : a.store.addressee (some c.user) with
    | error e =>
      rw [huser] at haddressee
      exact ⟨[], .error e, hload.bind_of_nil (haddressee.bind_error _), rfl, rfl⟩
    | ok user =>
      rw [huser] at haddressee
      cases hms : a.store.recent id worldHistory with
      | error e =>
        rw [hms] at hrecent
        exact ⟨[], .error e, hload.bind_of_nil (haddressee.bind_of_nil (hrecent.bind_error _)),
          rfl, rfl⟩
      | ok recent =>
        rw [hms] at hrecent
        have hgenerate := Action.does_generate (fun b => generateAndKeepWorld b.collaborators
          (b.settingsOf .decision) id ch user.name (transcript recent user.name (some ch.name))
          (.ofNames (some ch.name) (some user.name)) c.scenario) a
        dsimp only at hgenerate ⊢
        cases houtcome : (generateAndKeepWorld a.collaborators (a.settingsOf .decision) id ch
            user.name (transcript recent user.name (some ch.name))
            (.ofNames (some ch.name) (some user.name)) c.scenario).outcome with
        | error e =>
          rw [houtcome] at hgenerate
          exact ⟨_, .error e, hload.bind_of_nil (haddressee.bind_of_nil
            (hrecent.bind_of_nil (hgenerate.bind_error _))), rfl, rfl⟩
        | ok s =>
          rw [houtcome] at hgenerate
          exact ⟨_, .ok s, hload.bind_of_nil (haddressee.bind_of_nil (hrecent.bind_of_nil
            (hgenerate.bind ((Action.does_emit _ _ _).bind (Action.does_pure s _))))), rfl, rfl⟩

/-! ## Turns -/

/-- **A turn**: a demand, and the model that answers while it is met. -/
structure Turn where
  gateway : Gateway
  demand : Demand

/-- The application that a turn finds. -/
def facing (a : App) (t : Turn) : App :=
  { a with gateway := t.gateway }

/-- **What comes of a turn**, and the application after it. -/
def turn (a : App) (t : Turn) : Except Failure Outcome × App :=
  t.demand.action.run.run (a.facing t)

/-- **The application after some turns.** -/
def after (a : App) (ts : List Turn) : App :=
  ts.foldl (fun a t => (a.turn t).2) a

/-- **The account of every demand is right**: it is what is noted while the demand is met, in its
order, and what comes of it. -/
theorem turn_account (a : App) (t : Turn) :
    ∃ j, (a.turn t).2.journal = a.journal ++ j ∧ (a.turn t).2 = (a.facing t).replayAll j ∧
      t.demand.Account (a.facing t) j (a.turn t).1 := by
  have haccount : ∃ j r, t.demand.action.Does (a.facing t) j r ∧
      t.demand.Account (a.facing t) j r := by
    cases t.demand with
    | send id content =>
      obtain ⟨j, r, hdoes, h⟩ := sendMessage_account (a.facing t) id content
      exact ⟨j, _, hdoes.map _, h⟩
    | impersonate id style =>
      obtain ⟨j, r, hdoes, h⟩ := impersonate_account (a.facing t) id style
      exact ⟨j, _, hdoes.map _, h⟩
    | narrate id kind item character =>
      obtain ⟨j, r, hdoes, h⟩ := narrate_account (a.facing t) id kind item character
      exact ⟨j, _, hdoes.map _, h⟩
    | narrateScene id kind context =>
      obtain ⟨j, r, hdoes, h⟩ := narrateScene_account (a.facing t) id kind context
      exact ⟨j, _, hdoes.map _, h⟩
    | refresh id =>
      obtain ⟨j, r, hdoes, h⟩ := refreshWorld_account (a.facing t) id
      exact ⟨j, _, hdoes.map _, h⟩
  obtain ⟨j, r, hdoes, h⟩ := haccount
  have hturn : a.turn t = (r, (a.facing t).replayAll j) := hdoes
  refine ⟨j, hdoes.journal_eq, ?_⟩
  rw [hturn]
  exact ⟨rfl, h⟩

/-- **The journals of some turns**, one after another: each is what the application has noted in its
turn, changes what the turn has changed, and is accounted for by the demand. -/
inductive Chronicle : App → List Turn → List (List Happening) → Prop
  | nil (a : App) : Chronicle a [] []
  | cons {a : App} {t : Turn} {ts : List Turn} {j : List Happening} {js : List (List Happening)} :
    (a.turn t).2.journal = a.journal ++ j →
    (a.turn t).2 = (a.facing t).replayAll j →
    t.demand.Account (a.facing t) j (a.turn t).1 →
    Chronicle (a.turn t).2 ts js →
    Chronicle a (t :: ts) (j :: js)

theorem exists_chronicle (a : App) (ts : List Turn) : ∃ js, Chronicle a ts js := by
  induction ts generalizing a with
  | nil => exact ⟨[], .nil a⟩
  | cons t ts ih =>
    obtain ⟨j, hnoted, hturn, haccount⟩ := a.turn_account t
    obtain ⟨js, hjs⟩ := ih (a.turn t).2
    exact ⟨j :: js, .cons hnoted hturn haccount hjs⟩

/-! ## What is announced -/

/-- **What is stored is announced**, each message once and in the order in which they are stored. -/
def Announces (j : List Happening) : Prop :=
  (storedIn j).mapM StoredMessage.read = .ok (announcedIn j)

theorem announces_append {j j' : List Happening} (h : Announces j) (h' : Announces j') :
    Announces (j ++ j') := by
  rw [Announces, Happening.storedIn_append, Happening.announcedIn_append, List.mapM_append, h, h']
  rfl

theorem announces_written {role : Role} {m : StoredMessage} (h : m.role = role.word) :
    Announces (written role m) := by
  show [m].mapM StoredMessage.read = .ok [m.message role]
  rw [List.mapM_cons, StoredMessage.read_eq_message h]
  rfl

/-- Where nothing is stored and no message announced, nothing is missed. -/
theorem announces_of_nil {j : List Happening} (hstored : storedIn j = [])
    (hannounced : announcedIn j = []) : Announces j := by
  rw [Announces, hstored, hannounced]
  rfl

theorem announces_generated (calls : List Call) : Announces (generated calls) :=
  announces_of_nil (Happening.storedIn_generated calls) (Happening.announcedIn_generated calls)

theorem announces_typed (c : Int) (calls : List Call) : Announces (typed c calls) :=
  announces_of_nil (Happening.storedIn_typed c calls) (Happening.announcedIn_typed c calls)

theorem announces_of_answered {a : App} {c : Int} {role : Role} {sender : Text}
    {generation : App → Trace Generated} {j : List Happening} {r : Except Failure Message}
    (h : Answered a c role sender generation j r) : Announces j := by
  rw [Answered] at h
  dsimp only at h
  split at h
  · rw [h.1]
    exact announces_typed _ _
  · rw [h.1]
    exact announces_append (announces_typed _ _) (announces_written rfl)

/-- **At every demand, what is stored is announced.** -/
theorem announces_of_account {a : App} {j : List Happening} {r : Except Failure Outcome}
    {d : Demand} (h : d.Account a j r) : Announces j := by
  -- on every exit: nothing was stored, or one message after another by `written`
  cases d with
  | send id content =>
    simp only [Demand.Account] at h
    split at h
    · rw [h.1]; rfl
    · split at h
      · rw [h.1]
        exact announces_written rfl
      · obtain ⟨j', r', rfl, -, hanswered⟩ := h
        exact announces_append (announces_written rfl) (announces_of_answered hanswered)
  | impersonate id style =>
    simp only [Demand.Account] at h
    split at h
    · rw [h.1]; rfl
    · rw [h.1]; rfl
    · rw [h.1]; exact announces_generated _
  | narrate id kind item character =>
    simp only [Demand.Account] at h
    split at h
    · rw [h.1]; rfl
    · split at h
      · rw [h.1]; rfl
      · rw [h.1]; rfl
      · obtain ⟨r', -, hanswered⟩ := h
        exact announces_of_answered hanswered
  | narrateScene id kind context =>
    simp only [Demand.Account] at h
    split at h
    · rw [h.1]; rfl
    · obtain ⟨r', -, hanswered⟩ := h
      exact announces_of_answered hanswered
  | refresh id =>
    simp only [Demand.Account] at h
    split at h
    · rw [h.1]; rfl
    · split at h
      · rw [h.1]; rfl
      · rw [h.1]; rfl
      · split at h
        · rw [h.1]; exact announces_generated _
        · rw [h.1]; exact announces_append (announces_generated _) rfl

/-! ## Runs -/

/-- **What is stored and told in a run.** Every turn has its account, which is what the application
has noted in it, in that order; a conversation grows at its end by the messages that are stored for
it; these are the messages that are announced; and the subscribers are told what the journals
tell. -/
theorem conversations_consistent (a : App) (ts : List Turn) :
    ∃ js, Chronicle a ts js ∧
      (a.after ts).journal = a.journal ++ js.flatten ∧
      (∀ id, (a.after ts).store.messagesOf id =
        a.store.messagesOf id ++
          (storedIn js.flatten).filter fun m => some m.conversation = id) ∧
      (storedIn js.flatten).mapM StoredMessage.read = .ok (announcedIn js.flatten) ∧
      (a.after ts).notifier =
        (toldIn js.flatten).foldl (fun n p => (n.publish p.1 p.2).1) a.notifier := by
  obtain ⟨js, hjs⟩ := exists_chronicle a ts
  refine ⟨js, hjs, ?_⟩
  -- turn by turn: each finds the application that the one before has left
  induction hjs with
  | nil a => exact ⟨(List.append_nil _).symm, fun id => (List.append_nil _).symm, rfl, rfl⟩
  | @cons a t ts j js hnoted hturn haccount hjs ih =>
    obtain ⟨hjournal, hmessages, hannounced, hnotifier⟩ := ih
    rw [hnoted, List.append_assoc] at hjournal
    rw [hturn] at hmessages hnotifier
    rw [List.flatten_cons]
    refine ⟨hjournal, ?_, announces_append (announces_of_account haccount) hannounced, ?_⟩
    · intro id
      have hrows : ((a.facing t).replayAll j).store.messagesOf id =
          a.store.messagesOf id ++ (storedIn j).filter fun m => some m.conversation = id := by
        rw [Store.messagesOf, Table.filter, rows_replayAll, List.filter_append]
        rfl
      rw [Happening.storedIn_append, List.filter_append, ← List.append_assoc, ← hrows,
        ← hmessages]
      show (after (a.turn t).2 ts).store.messagesOf id = _
      rw [hturn]
    · rw [Happening.toldIn_append, List.foldl_append]
      show (after (a.turn t).2 ts).notifier = _
      rw [hturn, hnotifier, notifier_replayAll]
      rfl

end App

end Roleplay
