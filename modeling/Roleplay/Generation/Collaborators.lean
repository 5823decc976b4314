import Roleplay.Generation.Trace
import Roleplay.Prompt.Library
import Roleplay.Store.Users

/-!
# Collaborators

Those whom a generation asks, each as a function, and asking them as a trace. World, lore and log
may be missing; then nothing is asked of them.

A log may fail at a prompt and at a response. A prompt at which it fails has no id, and without an id
no response is logged; a response at which it fails is let go.

## Main definitions

* `Collaborators`: the functions
* `Collaborators.askAddressee`, `Collaborators.askWorld`, `Collaborators.askLore`,
  `Collaborators.ask`, `Collaborators.logPrompt`, `Collaborators.logResponse`
-/

namespace Roleplay

/-- **Those whom a generation asks.** A log that fails, whatever the reason, gives nothing: no id of
a prompt, and no sign that a response was kept. -/
structure Collaborators where
  addressee : Option Int → Except Failure Addressee
  templates : TemplateSource
  world : Option (Option Int → Except Failure (Option WorldState)) := none
  keepWorld : Option (Option Int → WorldState → Except Failure Unit) := none
  lore : Option (Option Int → Int → List Text → Except Failure Text) := none
  log : Option (PromptEntry → Option Text) := none
  keepResponse : Text → ResponseEntry → Option Unit := fun _ _ => some ()
  gateway : Gateway

namespace Collaborators

/-- Asking whom to speak to. -/
def askAddressee (c : Collaborators) (user : Option Int) : Trace Addressee :=
  .call (.addressee user) (c.addressee user)

/-- Asking for the state of the world of a conversation, if one is given. -/
def askWorld (c : Collaborators) (conversation : Option Int) : Trace (Option WorldState) :=
  match c.world with
  | none => pure none
  | some world =>
    if conversation = none ∨ conversation = some 0 then pure none
    else .call (.world conversation) (world conversation)

/-- Asking for the lore that turns call up. -/
def askLore (c : Collaborators) (user : Option Int) (character : Int) (turns : List Text) :
    Trace Text :=
  match c.lore with
  | none => pure []
  | some lore => .call (.lore user character turns) (lore user character turns)

/-- **Asking the model.** -/
def ask (c : Collaborators) (r : Request) : Trace Reply :=
  .call (.request r) (c.gateway r)

/-- Having a prompt logged; the id that the log gives, if it does not fail. -/
def logPrompt (c : Collaborators) (p : PromptEntry) : Trace (Option Text) :=
  match c.log with
  | none => pure none
  | some log => .attempt (.logPrompt p) (log p)

/-- Having a response logged under the id of its prompt, if there is one. -/
def logResponse (c : Collaborators) (id : Option Text) (r : ResponseEntry) : Trace Unit :=
  match c.log, id with
  | some _, some id => do
    let _ ← Trace.attempt (.logResponse id r) (c.keepResponse id r)
  | _, _ => pure ()

end Collaborators

end Roleplay
