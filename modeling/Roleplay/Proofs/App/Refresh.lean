import Roleplay.Proofs.App.Conversations
import Roleplay.Proofs.Generation.WorldState
import Roleplay.Proofs.Store.ReadAfterWrite

/-!
# A world made anew

When the state of a world is made anew, what the generation gives is what is stored, what is told
and what the user is given. The generation itself stores nothing, so the document of the
conversation is changed once, by the call that keeps the state; and that state is read back from it.

## Main results

* `App.store_performAll`: calls that keep nothing leave the store alone
* `App.store_generateAndKeepWorld`: a generation that is kept is one update of the store
* `App.refreshWorld_keeps`: what a completed refresh has stored and told
* `App.generated_world_kept`: a generation always gives a state, and a refresh keeps it
-/

namespace Roleplay.App

/-! ## The store after a generation -/

theorem store_perform {c : Call} (h : c.keeps = false) (a : App) : (a.perform c).store = a.store := by
  cases c with
  | keepWorld conversation state => cases h
  | _ => rfl

/-- A state that is kept is another document in the store. -/
theorem store_perform_keepWorld {a : App} {s : Store} {id : Option Int} {w : WorldState}
    (h : a.store.updateWorld id (some w) = .ok s) : (a.perform (.keepWorld id w)).store = s := by
  show (a.effect (.keepWorld id w)).store = s
  rw [effect, h]

/-- **Calls that keep nothing** leave the store alone. -/
theorem store_performAll {calls : List Call} (h : ∀ c ∈ calls, c.keeps = false) (a : App) :
    (calls.foldl perform a).store = a.store := by
  induction calls generalizing a with
  | nil => rfl
  | cons c calls ih =>
    rw [List.foldl_cons, ih fun d hd => h d (List.mem_cons_of_mem c hd),
      store_perform (h c List.mem_cons_self)]

/-- **A generation that is kept** is one update of the store. -/
theorem store_generateAndKeepWorld {a : App} {settings : Except Failure Settings}
    {id : Option Int} {character : Character} {user history : Text} {names : Labels}
    {scenario : Option Text} {w : WorldState}
    (h : (generateAndKeepWorld a.collaborators settings id character user history names
      scenario).outcome = .ok w) :
    (generateWorld a.collaborators settings character user history names scenario).outcome = .ok w ∧
      a.store.updateWorld id (some w) = .ok (a.replayAll (Happening.generated (generateAndKeepWorld
        a.collaborators settings id character user history names scenario).calls)).store := by
  obtain ⟨hw, hkeep, hcalls⟩ := generateAndKeepWorld_ok (c := a.collaborators) rfl h
  refine ⟨hw, ?_⟩
  have hbefore : ((generateWorld a.collaborators settings character user history names
      scenario).calls.foldl perform (a.note [.began])).store = a.store :=
    store_performAll keepsNothing_generateWorld _
  cases hupdate : a.store.updateWorld id (some w) with
  | error e =>
    rw [hupdate] at hkeep
    cases hkeep
  | ok s' =>
    -- the last call finds the store as it was
    rw [← hbefore] at hupdate
    rw [replayAll_generated, hcalls, List.foldl_append]
    exact congrArg Except.ok (store_perform_keepWorld hupdate).symm

/-! ## Refreshing -/

/-- **What a completed refresh has done**: what it gives was generated, is read back from the store,
and was the one thing told. -/
theorem refreshWorld_keeps {a a' : App} {id : Option Int} {w : WorldState}
    (h : (refreshWorld id).run.run a = (.ok w, a')) :
    ∃ c ch user recent, a.store.loaded id none = .ok (c, ch) ∧
      a.store.addressee (some c.user) = .ok user ∧ a.store.recent id worldHistory = .ok recent ∧
      (generateWorld a.collaborators (a.settingsOf .decision) ch user.name
        (transcript recent user.name (some ch.name)) (.ofNames (some ch.name) (some user.name))
        c.scenario).outcome = .ok w ∧
      a'.store.worldState? id = .ok (some w) ∧
      ∃ j, a' = a.replayAll j ∧ Happening.toldIn j = [(c.id, .worldState w)] := by
  obtain ⟨j, r, hdoes, haccount⟩ := refreshWorld_account a id
  rw [Action.Does, h] at hdoes
  cases hdoes
  simp only [Demand.Account] at haccount
  -- on every other exit something failed
  split at haccount
  · cases haccount.2
  next c ch hloaded =>
  split at haccount
  · cases haccount.2
  · cases haccount.2
  next user recent huser hrecent =>
  split at haccount
  · cases haccount.2
  next w' houtcome =>
  obtain ⟨rfl, hw⟩ := haccount
  cases hw
  obtain ⟨hid, htakes⟩ := Store.takes_of_loaded hloaded
  obtain ⟨hgenerated, hupdate⟩ := store_generateAndKeepWorld houtcome
  obtain ⟨profile, template, s, -, hmade⟩ := generateWorld_made hgenerated
  refine ⟨c, ch, user, recent, hloaded, huser, hrecent, hgenerated, ?_, _, rfl, ?_⟩
  · rw [← hid] at hupdate ⊢
    rw [replayAll_append]
    exact (Store.worldState?_of_updateWorld htakes.isThere hmade.distinct hupdate).1
  · rw [Happening.toldIn_append, Happening.toldIn_generated]
    rfl

/-- **A generation always gives a state, and a refresh keeps it.** With a card that can be read and a
gateway that serves, no failure of a generation is one of the model; when the template and the
settings can be read too, there is a state, made from the answer. And whenever a refresh completes,
what it gives is what was generated and something is known in it; it is what is read back from the
store, and the one thing told to the subscribers of the conversation. -/
theorem generated_world_kept :
    (∀ (c : Collaborators) (settings : Except Failure Settings) (character : Character)
        (user history : Text) (names : Labels) (scenario : Option Text) (profile : Profile),
      character.profile scenario = .ok profile → c.gateway.Serves →
      let t := generateWorld c settings character user history names scenario
      (∀ e, t.outcome = .error e → e.isOfModel = false ∨ settings = .error e) ∧
        ∀ template s, Prompt.loadWorldState c.templates = .ok template → settings = .ok s →
          ∃ w, t.outcome = .ok w ∧
            w.MadeFrom (namesOr names profile user)
              (c.gateway (worldRequestOf template profile user history s))) ∧
    ∀ (a a' : App) (id : Option Int) (w : WorldState),
      (refreshWorld id).run.run a = (.ok w, a') →
      ∃ c ch user recent, a.store.loaded id none = .ok (c, ch) ∧
        a.store.addressee (some c.user) = .ok user ∧ a.store.recent id worldHistory = .ok recent ∧
        (generateWorld a.collaborators (a.settingsOf .decision) ch user.name
          (transcript recent user.name (some ch.name)) (.ofNames (some ch.name) (some user.name))
          c.scenario).outcome = .ok w ∧
        w.hasContent = true ∧
        a'.store.worldState? id = .ok (some w) ∧
        (∃ j, a' = a.replayAll j ∧ Happening.toldIn j = [(c.id, .worldState w)]) ∧
        a'.notifier = (a.notifier.publish c.id (.worldState w)).1 := by
  constructor
  · intro c settings character user history names scenario profile hprofile hserves t
    refine ⟨fun e he => generateWorld_fails hprofile hserves he, ?_⟩
    rintro template s htemplate rfl
    exact exists_generateWorld hprofile htemplate hserves
  · intro a a' id w h
    obtain ⟨c, ch, user, recent, hloaded, huser, hrecent, hgenerated, hstored, j, hj, htold⟩ :=
      refreshWorld_keeps h
    obtain ⟨profile, template, s, -, hmade⟩ := generateWorld_made hgenerated
    refine ⟨c, ch, user, recent, hloaded, huser, hrecent, hgenerated, hmade.hasContent, hstored,
      ⟨j, hj, htold⟩, ?_⟩
    rw [hj, notifier_replayAll, htold]
    rfl

/-- A gateway that fails, and an answer with marks of emphasis over a document that is no object. -/
theorem generated_world_kept_wary :
    let aria : Character := { id := 1, name := "Aria" }
    let wary : WorldState := ⟨[("character", ⟨[⟨"mood", .text "wary"⟩]⟩)]⟩
    let silent : Collaborators :=
      { addressee := fun _ => .ok .unknown, templates := fun _ => .error .absent,
        gateway := fun _ => .error (.gateway "timeout") }
    let a : App :=
      { store :=
          { users := ⟨1, [{ id := 1, name := "jordan" }]⟩
            characters := ⟨1, [aria]⟩
            conversations := ⟨1, [{ id := 1, user := 1, primary := some 1, worldInfo := some "[5]" }]⟩ }
        files := .empty, log := ⟨.here, 5, 0⟩, templates := ⟨.here⟩, settings := ⟨.here⟩
        scenarios := ⟨.here⟩, moment := default
        gateway := fun _ => .ok { content := "I see.\n**Aria:**\n- Mood: *wary*" } }
    (∃ w, (generateWorld silent (.ok Purpose.decision.defaults) aria "Jordan" [] [] none).outcome =
        .ok w ∧ w.hasContent = true ∧ w = .default) ∧
      ∃ a', (refreshWorld (some 1)).run.run a = (.ok wary, a') ∧
        a'.store.worldState? (some 1) = .ok (some wary) ∧
        a'.notifier = (a.notifier.publish 1 (.worldState wary)).1 := by
  intro aria wary silent a
  constructor
  · have hserves : silent.gateway.Serves := fun _ => Or.inr ⟨_, rfl⟩
    obtain ⟨profile, hprofile⟩ : ∃ profile, aria.profile none = .ok profile := ⟨_, rfl⟩
    obtain ⟨-, hgives⟩ := generated_world_kept.1 silent (.ok Purpose.decision.defaults) aria "Jordan"
      [] [] none profile hprofile hserves
    obtain ⟨w, hw, hmade⟩ := hgives _ _ rfl rfl
    exact ⟨w, hw, hmade.hasContent, hmade.untold fun _ h => by cases h⟩
  · have hrun : (refreshWorld (some 1)).run.run a =
        (.ok wary, ((refreshWorld (some 1)).run.run a).2) := Prod.ext rfl rfl
    obtain ⟨c, ch, user, recent, hloaded, -, -, -, -, hstored, -, htold⟩ :=
      generated_world_kept.2 a _ (some 1) wary hrun
    refine ⟨_, hrun, hstored, ?_⟩
    have hc : c.id = 1 := Option.some.inj (Store.takes_of_loaded hloaded).1
    rw [htold, hc]

end Roleplay.App
