import Roleplay.Json.Reader
import Roleplay.Json.Writer
import Roleplay.World.Document
import Roleplay.World.Legacy

/-!
# World info

The document that a conversation keeps about its world: the state, and other members that are
kept as they are. A document in an older form is migrated as it is read.

## Main definitions

* `WorldInfo`: the state and the other members
* `WorldInfo.ofJson`, `WorldInfo.read`: from a document, from its text
* `WorldInfo.text`: the text of the document
* `WorldInfo.withState`: another state, the other members kept
-/

namespace Roleplay

/-- **World info**: the state, and the other members of the document. -/
structure WorldInfo where
  state : Option WorldState
  extra : Members
deriving Repr

/-- Why there is no world info in a text. -/
inductive WorldInfo.Fault
  | malformed (fault : Json.ReadFault)
  | notListable
  | invalid (fields : List FieldPath)
deriving Repr

namespace WorldInfo

/-- The names of the member that holds the state, the current one first. -/
def stateKeys : List Text := [Legacy.stateKey, "world_state"]

/-- World info from the members of a document in the current form. The state stands under the
first of its names that is there; everything else is kept. -/
def ofMembers (ms : Members) : Checked WorldInfo :=
  let extra := match ms.firstOf stateKeys with
    | some (k, _) => ms.remove k
    | none => ms
  (ms.optional stateKeys none (Checked.nullable WorldState.ofJson)).map fun s => ⟨s, extra⟩

/-- **World info from a document** in any form. -/
def ofJson (v : Json) : Except Fault WorldInfo :=
  match Legacy.migrate v with
  | none => .error .notListable
  | some ms =>
    match ofMembers ms with
    | .valid i => .ok i
    | .invalid fs => .error (.invalid fs)

/-- World info from the text of a document. -/
def read (t : Text) : Except Fault WorldInfo :=
  match Json.read t with
  | .error f => .error (.malformed f)
  | .ok v => ofJson v

/-- The document: the state first, then the other members, those that are null left out. -/
def toJson (i : WorldInfo) : Json :=
  let state := match i.state with
    | none => []
    | some s => [(Legacy.stateKey, s.toJson)]
  .obj (state ++ i.extra.present)

/-- **The text of the document.** -/
def text (i : WorldInfo) : Text :=
  Json.write .compact i.toJson

/-- Another state, or none, with the other members kept. -/
def withState (i : Option WorldInfo) (s : Option WorldState) : WorldInfo :=
  ⟨s, match i with
    | none => []
    | some i => i.extra⟩

end WorldInfo

end Roleplay
