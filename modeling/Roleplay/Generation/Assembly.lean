import Roleplay.Generation.Collaborators
import Roleplay.Generation.Variables

/-!
# Assembling a prompt

A generation resolves the card, gathers what else it needs, renders its template, puts behind it
what belongs there, and sends the result as one system message. A broken card ends it before
anything is asked; a failure of the gateway is passed on.

## Main definitions

* `gatherBrief`: what is gathered, the card first
* `Extras`, `finish`: what is put behind the rendered template
* `Generated`, `submit`: the prompt sent, and what comes back
-/

namespace Roleplay

/-- **Gathering what a template needs.** The independent parts are asked for together. The user
that is given counts before the one of the settings. -/
def gatherBrief (c : Collaborators) (character : Character) (settings : Settings)
    (template : Except Failure Text) (conversation user : Option Int) (scenario : Option Text) :
    Trace Brief := do
  let profile ← .ofExcept ((character.profile scenario).mapError .card)
  let user := user <|> settings.user
  let (addressee, template, world, style) ←
    (c.askAddressee user).together ((Trace.ofExcept template).together
      ((c.askWorld conversation).together (.ofExcept (Prompt.loadWritingStyle c.templates))))
  return { profile, addressee, user, template, world, style }

/-- **What is put behind a rendered template**: texts of the card, and lore. -/
structure Extras where
  card : Bool
  lore : Bool
deriving DecidableEq, Repr

/-- The texts of a card behind a prompt. -/
def cardExtras (p : Profile) : Text :=
  (if p.exampleDialogue.isEmpty then []
    else "\n\nExample Dialogue:\n".toList ++ p.exampleDialogue)
  ++ (if p.systemPrompt.isEmpty then [] else "\n\n".toList ++ p.systemPrompt)

/-- **The finished prompt**: the rendered template, the extras, no blanks at either end. -/
def finish (c : Collaborators) (extras : Extras) (b : Brief) (rendered : Text)
    (history : List Message) : Trace Text := do
  let prompt := if extras.card then rendered ++ cardExtras b.profile else rendered
  let lore ← if extras.lore then c.askLore b.user b.profile.id (history.map (·.content)) else pure []
  return (if lore.isEmpty then prompt else prompt ++ "\n\n".toList ++ lore).strip

/-- **What a generation gives**: a text, and the reasoning behind it where there is one. -/
structure Generated where
  content : Text
  reasoning : Option Text := none
deriving DecidableEq, Repr

/-- A text that is there and not empty. -/
def nonempty (t : Option Text) : Option Text :=
  t.filter (!·.isEmpty)

/-- **Sending a prompt** as one system message; `use` makes the text from the answer. -/
def submit (c : Collaborators) (prompt : Text) (settings : Settings) (tag subject user : Text)
    (userId : Option Int) (use : Text → Text) : Trace Generated := do
  let messages : List Message := [{ role := .system, content := prompt }]
  let id ← c.logPrompt { messages, tag, subject, user }
  let reply ← c.ask (.ofSettings messages settings userId)
  let used := use reply.content
  c.logResponse id { tag, raw := reply.content, used, details := reply.toJson }
  return { content := used, reasoning := nonempty reply.reasoning }

end Roleplay
