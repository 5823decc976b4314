import Roleplay.Generation.Assembly
import Roleplay.Store.Scene

/-!
# Narration

A narrator speaks about one character, or about everyone in the scene.

## Main definitions

* `ItemContext`, `generateNarration`: about a character, or an item of its
* `SceneContext`, `SceneSource`, `generateSceneNarration`: about the scene
-/

namespace Roleplay

/-- **The item that a narration describes.** -/
structure ItemContext where
  owner : Text
  name : Text
  description : Text := []
deriving DecidableEq, Repr

/-- The variables of an item. -/
def ItemContext.scope (i : ItemContext) : Members :=
  [("item_owner", .str i.owner), ("item_name", .str i.name),
    ("item_description", .str i.description)]

/-- **A narration about one character.** -/
def generateNarration (c : Collaborators) (history : List Message) (character : Character)
    (settings : Settings) (kind : Text) (conversation : Option Int) (item : Option ItemContext)
    (scenario : Option Text) (user : Option Int) : Trace Generated := do
  let template := Prompt.loadNarration c.templates kind
  let b ← gatherBrief c character settings template conversation user scenario
  let cast : Members :=
    [("character_name", .str b.profile.name), ("character_names", .str b.profile.name)]
  let scope := b.scope history ++ cast ++ (item.elim [] (·.scope))
  let prompt ← finish c ⟨false, false⟩ b (Template.render scope b.template) history
  submit c prompt settings "action" b.profile.name b.addressee.name b.user id

/-- **Who enters or leaves a scene**, and who is named as present. -/
structure SceneContext where
  name : Option Text := none
  names : List Text := []
deriving DecidableEq, Repr

/-- **Where the narrator of a scene looks things up.** -/
structure SceneSource where
  settings : Except Failure Settings
  conversation : Option Int → Except Failure (Option Conversation)
  cast : Option Int → Except Failure (List Character)
  recent : Option Int → Except Failure (List Message)

/-- The variables of a scene. -/
def sceneVariables (cast : List Character) (introductions : List Text) (addressee : Addressee)
    (world scenario : Text) (recent : List Message) (context : SceneContext) : Members :=
  let names := Text.join [',', ' '] (cast.map (·.name))
  [("char", .str (cast.head?.elim [] (·.name))), ("user", .str addressee.name),
    ("user_description", .str addressee.description),
    ("character_name", .str (Text.orEmpty context.name)),
    ("character_names", .str (Text.orElse (Text.join [',', ' '] context.names) names)),
    ("character_descriptions", .str (Text.join ['\n', '\n'] introductions)),
    ("world", .str world), ("scenario", .str scenario),
    ("history", .str (transcript recent addressee.name none))]

/-- The sheet of the world under the names of the first of a cast and the addressee; nothing is
asked when nobody is there. -/
def sceneWorld (c : Collaborators) (conversation : Option Int) (cast : List Character)
    (addressee : Addressee) : Trace Text :=
  match cast with
  | [] => pure []
  | first :: _ => do
    let state ← c.askWorld conversation
    return WorldState.sheet? state (.ofNames (some first.name) (some addressee.name))

/-- **A narration about everyone in a scene.** -/
def generateSceneNarration (c : Collaborators) (source : Option SceneSource) (user : Option Int)
    (conversation : Option Int) (kind : Text) (context : SceneContext) : Trace Generated := do
  let some source := source | .ofExcept (.error .noSceneStore)
  let settings ← .ofExcept source.settings
  let (stored, cast, recent, addressee, template) ←
    (Trace.ofExcept (source.conversation conversation)).together
      ((Trace.ofExcept (source.cast conversation)).together
        ((Trace.ofExcept (source.recent conversation)).together
          ((c.askAddressee user).together
            (.ofExcept (Prompt.loadNarration c.templates kind)))))
  let world ← sceneWorld c conversation cast addressee
  let introductions ← .ofExcept (cast.mapM fun m => m.introduction.mapError .card)
  let scenario := Text.orEmpty (stored.bind (·.scenario))
  let scope := sceneVariables cast introductions addressee world scenario recent context
  submit c (Template.render scope template).strip settings "scene_narration" narratorName
    addressee.name user id

end Roleplay
