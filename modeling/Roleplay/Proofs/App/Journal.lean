import Roleplay.App.Conversations

/-!
# Journals

What an action does to the application is a list of happenings, one after another: a message is
stored, subscribers are told an event, a generation begins, a call is made for it. The application
notes them as they come, and doing them again leads from the application before the action to the
one after it, with what it has noted. So the journal of an action is the one that is noted in it,
in the order in which things have happened. What an action that goes on does is the journal of its
first part and behind it the journal of the rest.

## Main definitions

* `App.replay`, `App.replayAll`: what happenings change
* `Happening.storedIn`, `Happening.toldIn`, `Happening.announcedIn`: what a journal stores, tells
  and announces
* `Happening.generated`: the journal of a generation
* `Action.Does`: the journal of an action and what comes of it
* `Store.Takes`: a store that takes messages for a conversation

## Main results

* `App.journal_replayAll`: what is noted while a journal is done again is the journal
* `Action.Does.journal_eq`: the journal of an action is what is noted in it
* `Action.Does.bind`, `Action.Does.bind_error`: journals of an action that goes on, or fails
* `Action.does_whileTyping`: a journal between two typing events
* `App.rows_replayAll`, `App.notifier_replayAll`: messages and subscribers after a journal
* `Store.Takes.replayAll`: no happening keeps a conversation from taking messages
-/

namespace Roleplay

namespace App

/-- **An application in which something happens**, and is noted. -/
def replay (a : App) : Happening → App
  | .stored m =>
    { a with store := { a.store with messages := ⟨m.id, a.store.messages.rows ++ [m]⟩ } }.note
      [.stored m]
  | .told c e => a.tell c e
  | .began => a.note [.began]
  | .asked c => a.perform c

/-- **An application in which one thing happens after another.** -/
def replayAll (a : App) (j : List Happening) : App :=
  j.foldl replay a

@[simp] theorem replayAll_cons (a : App) (h : Happening) (j : List Happening) :
    a.replayAll (h :: j) = (a.replay h).replayAll j := rfl

theorem replayAll_append (a : App) (j j' : List Happening) :
    a.replayAll (j ++ j') = (a.replayAll j).replayAll j' :=
  List.foldl_append

/-! ## What is noted -/

theorem journal_effect (a : App) (c : Call) : (a.effect c).journal = a.journal := by
  cases c with
  | keepWorld conversation state =>
    rw [effect]
    split <;> rfl
  | _ => rfl

theorem journal_replay (a : App) (h : Happening) : (a.replay h).journal = a.journal ++ [h] := by
  cases h with
  | asked c =>
    show (a.effect c).journal ++ [Happening.asked c] = _
    rw [journal_effect]
  | _ => rfl

/-- **What is noted while a journal is done again is the journal.** -/
theorem journal_replayAll (a : App) (j : List Happening) :
    (a.replayAll j).journal = a.journal ++ j := by
  induction j generalizing a with
  | nil => exact (List.append_nil _).symm
  | cons h j ih => rw [replayAll_cons, ih, journal_replay, List.append_assoc, List.singleton_append]

end App

namespace Happening

/-- The messages that are stored in a journal. -/
def storedIn (j : List Happening) : List StoredMessage :=
  j.filterMap fun
    | stored m => some m
    | _ => none

/-- The events that are told in a journal, each with its conversation. -/
def toldIn (j : List Happening) : List (Int × Event) :=
  j.filterMap fun
    | told c e => some (c, e)
    | _ => none

/-- The messages that are announced in a journal. -/
def announcedIn (j : List Happening) : List Message :=
  j.filterMap fun
    | told _ (.newMessage m) => some m
    | _ => none

theorem storedIn_append (j j' : List Happening) :
    storedIn (j ++ j') = storedIn j ++ storedIn j' :=
  List.filterMap_append

theorem toldIn_append (j j' : List Happening) : toldIn (j ++ j') = toldIn j ++ toldIn j' :=
  List.filterMap_append

theorem announcedIn_append (j j' : List Happening) :
    announcedIn (j ++ j') = announcedIn j ++ announcedIn j' :=
  List.filterMap_append

/-- **The journal of a generation** that makes some calls. -/
def generated (calls : List Call) : List Happening :=
  .began :: calls.map .asked

@[simp] theorem storedIn_generated (calls : List Call) : storedIn (generated calls) = [] := by
  simp [storedIn, generated, List.filterMap_map]

@[simp] theorem toldIn_generated (calls : List Call) : toldIn (generated calls) = [] := by
  simp [toldIn, generated, List.filterMap_map]

@[simp] theorem announcedIn_generated (calls : List Call) : announcedIn (generated calls) = [] := by
  simp [announcedIn, generated, List.filterMap_map]

end Happening

/-! ## The calls of a generation -/

namespace Store

/-- **A store that takes messages** for a conversation. -/
structure Takes (s : Store) (c : Int) : Prop where
  isOpen : s.accept [some c] = .ok ()
  isThere : s.hasConversation c = true

/-- Another world document changes nothing of a store but the documents of conversations. -/
theorem updateWorld_frame {s s' : Store} {id : Option Int} {state : Option WorldState}
    (h : s.updateWorld id state = .ok s') :
    ∃ worldInfo : Option Text, s' = s.changeConversation id fun c => { c with worldInfo } := by
  rw [updateWorld] at h
  cases hread : s.readWorld id with
  | error e =>
    rw [hread] at h
    cases h
  | ok info =>
    rw [hread] at h
    change s.setWorldInfo id _ = _ at h
    rw [setWorldInfo] at h
    cases haccept : s.accept [id] with
    | error e =>
      rw [haccept] at h
      cases h
    | ok =>
      rw [haccept] at h
      cases h
      exact ⟨_, rfl⟩

/-- The conversations that are there stay there when one of them is changed. -/
theorem hasConversation_changeConversation (s : Store) (id : Option Int)
    (worldInfo : Option Text) (c : Int) :
    (s.changeConversation id fun c => { c with worldInfo }).hasConversation c =
      s.hasConversation c := by
  simp only [hasConversation, changeConversation, Table.update, List.any_map]
  congr 1
  funext r
  simp only [Function.comp_apply]
  split <;> rfl

end Store

namespace App

/-- **What a call leaves alone**: the messages, the subscribers, and which conversations there
are. -/
theorem perform_frame (a : App) (c : Call) :
    (a.perform c).store.messages = a.store.messages ∧ (a.perform c).notifier = a.notifier ∧
      ∀ id, a.store.Takes id → (a.perform c).store.Takes id := by
  show (a.effect c).store.messages = _ ∧ (a.effect c).notifier = _ ∧
    ∀ id, _ → (a.effect c).store.Takes id
  cases c with
  | keepWorld conversation state =>
    simp only [effect]
    cases h : a.store.updateWorld conversation (some state) with
    | error e => exact ⟨rfl, rfl, fun _ h => h⟩
    | ok s =>
      obtain ⟨worldInfo, rfl⟩ := Store.updateWorld_frame h
      refine ⟨rfl, rfl, ?_⟩
      intro id htakes
      constructor
      · exact htakes.isOpen
      · rw [Store.hasConversation_changeConversation]
        exact htakes.isThere
  | _ => exact ⟨rfl, rfl, fun _ h => h⟩

/-! ## What a journal changes -/

/-- A generation that is done again has its calls made, one after another. -/
theorem replayAll_generated (a : App) (calls : List Call) :
    a.replayAll (Happening.generated calls) = calls.foldl perform (a.note [.began]) :=
  List.foldl_map

/-- **The messages after a journal** are those before it with the stored ones behind them. -/
theorem rows_replayAll (a : App) (j : List Happening) :
    (a.replayAll j).store.messages.rows =
      a.store.messages.rows ++ Happening.storedIn j := by
  induction j generalizing a with
  | nil => exact (List.append_nil _).symm
  | cons h j ih =>
    rw [replayAll_cons, ih]
    cases h with
    | stored m => exact List.append_assoc _ _ _
    | told c e => rfl
    | began => rfl
    | asked c =>
      show (a.perform c).store.messages.rows ++ _ = _
      rw [(a.perform_frame c).1]
      rfl

/-- Where nothing is stored, the messages are those before. -/
theorem messages_replayAll {j : List Happening} (h : Happening.storedIn j = []) (a : App) :
    (a.replayAll j).store.messages = a.store.messages := by
  induction j generalizing a with
  | nil => rfl
  | cons g j ih =>
    cases g with
    | stored m => cases h
    | told c e => exact ih h _
    | began => exact ih h _
    | asked c => exact (ih h _).trans (a.perform_frame c).1

/-- **The notifier after a journal** is the one before it after the events were published. -/
theorem notifier_replayAll (a : App) (j : List Happening) :
    (a.replayAll j).notifier =
      (Happening.toldIn j).foldl (fun n p => (n.publish p.1 p.2).1) a.notifier := by
  induction j generalizing a with
  | nil => rfl
  | cons h j ih =>
    rw [replayAll_cons, ih]
    cases h with
    | stored m => rfl
    | told c e => rfl
    | began => rfl
    | asked c =>
      show (Happening.toldIn j).foldl _ (a.perform c).notifier = _
      rw [(a.perform_frame c).2.1]
      rfl

/-- No happening keeps a conversation from taking messages. -/
theorem takes_replayAll {a : App} {c : Int} (h : a.store.Takes c) (j : List Happening) :
    (a.replayAll j).store.Takes c := by
  induction j generalizing a with
  | nil => exact h
  | cons g j ih =>
    apply ih
    cases g with
    | stored m => exact ⟨h.isOpen, h.isThere⟩
    | told c e => exact h
    | began => exact h
    | asked call => exact (a.perform_frame call).2.2 c h

end App

/-! ## The journal of an action -/

namespace Action

variable {α β : Type}

/-- **What an action does**: what happens in it, and what comes of it. -/
def Does (act : Action α) (a : App) (j : List Happening) (r : Except Failure α) : Prop :=
  act.run.run a = (r, a.replayAll j)

/-- **The journal of an action is what is noted in it.** -/
theorem Does.journal_eq {act : Action α} {a : App} {j : List Happening} {r : Except Failure α}
    (h : Does act a j r) : (act.run.run a).2.journal = a.journal ++ j := by
  rw [h]
  exact a.journal_replayAll j

/-- **An action that goes on** does what its first part does, and then the rest. -/
theorem Does.bind {act : Action α} {f : α → Action β} {a : App} {j j' : List Happening} {x : α}
    {r : Except Failure β} (h : Does act a j (.ok x)) (h' : Does (f x) (a.replayAll j) j' r) :
    Does (act >>= f) a (j ++ j') r := by
  rw [Does, App.replayAll_append, ← h']
  show (ExceptT.bindCont f (act.run.run a).1).run (act.run.run a).2 = _
  rw [h]
  rfl

/-- An action in whose first part nothing happens does what the rest does. -/
theorem Does.bind_of_nil {act : Action α} {f : α → Action β} {a : App} {j : List Happening} {x : α}
    {r : Except Failure β} (h : Does act a [] (.ok x)) (h' : Does (f x) a j r) :
    Does (act >>= f) a j r :=
  h.bind h'

/-- **An action that fails** does nothing more. -/
theorem Does.bind_error {act : Action α} {a : App} {j : List Happening} {e : Failure}
    (h : Does act a j (.error e)) (f : α → Action β) : Does (act >>= f) a j (.error e) := by
  show (ExceptT.bindCont f (act.run.run a).1).run (act.run.run a).2 = _
  rw [h]
  rfl

theorem does_pure (x : α) (a : App) : Does (pure x) a [] (.ok x) := rfl

/-- What comes of an action changed afterwards. -/
theorem Does.map {act : Action α} {a : App} {j : List Happening} {r : Except Failure α}
    (h : Does act a j r) (f : α → β) : Does (f <$> act) a j (r.map f) := by
  rw [Does, map_eq_pure_bind]
  cases r with
  | error e => exact h.bind_error _
  | ok x =>
    have hmap := h.bind (f := fun x => pure (f x)) (does_pure (f x) _)
    rwa [List.append_nil] at hmap

theorem does_throw (e : Failure) (a : App) : Does (throw e : Action α) a [] (.error e) := rfl

theorem does_get (a : App) : Does (get : Action App) a [] (.ok a) := rfl

/-- Looking something up does nothing. -/
theorem does_look (f : Store → Except Failure α) (a : App) : Does (look f) a [] (f a.store) := by
  rw [look]
  apply (does_get a).bind_of_nil
  cases f a.store <;> rfl

/-- A statement that stores a message and nothing else. -/
theorem does_change {f : Store → Except Failure (Store × α)} {a : App} {m : StoredMessage} {x : α}
    (h : f a.store = .ok ((a.replay (.stored m)).store, x)) :
    Does (change f) a [.stored m] (.ok x) := by
  have hnew : a.store.newMessages (a.replay (.stored m)).store = [m] := List.drop_left
  have hset : a.withStore (a.replay (.stored m)).store = a.replay (.stored m) := by
    rw [App.withStore, hnew]
    rfl
  rw [change]
  apply (does_get a).bind_of_nil
  rw [h, Does, App.replayAll_cons, ← hset]
  rfl

theorem does_emit (c : Int) (e : Event) (a : App) :
    Does (emit c e) a [.told c e] (.ok ()) := rfl

/-- A generation begins and makes its calls, whatever comes of it. -/
theorem does_generate (t : App → Trace α) (a : App) :
    Does (generate t) a (Happening.generated (t a).calls) (t a).outcome := by
  have hcalls : Does (set ((t a).calls.foldl App.perform (a.note [.began])) : Action PUnit) a
      (Happening.generated (t a).calls) (.ok ⟨⟩) := by
    rw [Does, App.replayAll_generated]
    rfl
  rw [generate, ← List.append_nil (Happening.generated (t a).calls)]
  apply (does_get a).bind_of_nil
  apply hcalls.bind
  cases (t a).outcome <;> rfl

/-- **What happens while someone writes** stands between two typing events, also when it fails. -/
theorem does_whileTyping {act : Action α} {c : Int} {a : App} {j : List Happening}
    {r : Except Failure α} (h : Does act (a.replay (.told c (.typing true))) j r) :
    Does (whileTyping c act) a (.told c (.typing true) :: j ++ [.told c (.typing false)]) r := by
  have hlift : Does (ExceptT.lift act.run) (a.replay (.told c (.typing true))) j (.ok r) := by
    show (Except.ok (act.run.run _).1, (act.run.run _).2) = _
    rw [h]
  have hstops := does_emit c (.typing false) ((a.replay (.told c (.typing true))).replayAll j)
  rw [whileTyping]
  apply (does_emit c (.typing true) a).bind
  apply hlift.bind
  -- what came of the action comes of the whole, after the last event
  cases r with
  | error e => exact hstops.bind (does_throw e _)
  | ok x => exact hstops.bind (does_pure x _)

end Action

end Roleplay
