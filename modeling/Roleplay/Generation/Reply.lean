import Roleplay.Generation.Assembly

/-!
# Replies and messages in the user's name

## Main definitions

* `Reply.generate`: the next reply of the character
* `Impersonation.generate`: the next message of the user, in a style
-/

namespace Roleplay

/-- **The next reply of the character.** -/
def generateReply (c : Collaborators) (history : List Message) (character : Character)
    (settings : Settings) (tag : Option Text) (conversation : Option Int) (scenario : Option Text)
    (user : Option Int) : Trace Generated := do
  let b ← gatherBrief c character settings (Prompt.loadChat c.templates) conversation user scenario
  let scope := Entries.merge (b.scope history) (stateVariables b.world)
  let prompt ← finish c ⟨true, true⟩ b (Template.render scope b.template) history
  submit c prompt settings (Text.given tag "chat") b.profile.name b.addressee.name b.user id

/-- **The next message of the user**, in a style. The examples of the card are in the character's
voice and left out; a name that the answer begins with is taken off. -/
def generateImpersonation (c : Collaborators) (history : List Message) (character : Character)
    (settings : Settings) (style : Option Text) (user conversation : Option Int)
    (scenario : Option Text) : Trace Generated := do
  let template := Prompt.loadImpersonation c.templates style
  let b ← gatherBrief c character settings template conversation user scenario
  let scope := Entries.put (b.scope history) "style" (.str (Prompt.styleOf style))
  let prompt ← finish c ⟨false, true⟩ b (Template.render scope b.template) history
  submit c prompt settings "impersonate" b.profile.name b.addressee.name b.user
    (withoutSpeaker · b.addressee.name)

end Roleplay
