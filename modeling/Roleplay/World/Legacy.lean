import Roleplay.Json.Display
import Roleplay.World.Document
import Roleplay.World.Sheet

/-!
# Older world documents

World documents were once flat: an entity held its mood, position and clothes as members of its
own, and before that a document held nothing but the clothes of the two speakers. Such a document
is migrated to entities with attribute lists; one in the current form is left alone. Whether a
document is current is read off its first entity.

## Main definitions

* `Legacy.items?`: the items that a value lists
* `Legacy.attributes`: the attributes of a flat entity
* `Legacy.migrate`: a document in the current form
-/

namespace Roleplay.Legacy

/-- The member that holds the state. -/
def stateKey : Text := "worldState"

/-- The member that holds the attributes of an entity. -/
def attributesKey : Text := "attributes"

/-- The member, and the attribute, that holds clothes. -/
def clothesKey : Text := "clothes"

/-- The texts that a flat entity gives first. -/
def knownTexts : List Text := ["mood", "position"]

/-- The lists that a flat entity gives after them. -/
def knownLists : List Text := [clothesKey]

/-- The document of an attribute. -/
def attributeJson (name : Text) (type : Text) (value : Json) : Json :=
  .obj [("name", .str name), ("type", .str type), ("value", value)]

/-- The item that an entry gives: an object with a name, or a text that is not blank. -/
def item? : Json → Option Item
  | .obj ms =>
    let name := Members.get ms "name"
    let description := Members.get ms "description"
    if name.isTruthy then
      some ⟨name.shown, if description.isTruthy then description.shown else []⟩
    else none
  | .str s => if s.strip.isEmpty then none else some ⟨s.strip, []⟩
  | _ => none

/-- The entries of a value, when it has any: the items of an array, the characters of a text, the
names of an object. Nothing has no entries. -/
def entries? (v : Json) : Option (List Json) :=
  if v.isTruthy then
    match v with
    | .arr xs => some xs
    | .str s => some (s.map fun c => .str [c])
    | .obj ms => some (ms.map fun m => .str m.1)
    | _ => none
  else some []

/-- **The items that a value lists**, when it can be read as a list. -/
def items? (v : Json) : Option (List Item) :=
  (entries? v).map (·.filterMap item?)

/-- The document of a list attribute. -/
def listJson (name : Text) (items : List Item) : Json :=
  attributeJson name "list" (.arr (items.map Item.toJson))

/-- The attribute of a known text of a flat entity, unless it is empty. -/
def knownText? (entity : Members) (name : Text) : Option Json :=
  match entity.get name with
  | .str s => if s.isEmpty then none else some (attributeJson name "text" (.str s))
  | _ => none

/-- The attribute of a list member of a flat entity. -/
def list? (name : Text) : Json → Option Json
  | .arr xs => some (listJson name (xs.filterMap item?))
  | _ => none

/-- The attribute of any other member of a flat entity: of a list or a text. -/
def other? (name : Text) : Json → Option Json
  | .arr xs => some (listJson name (xs.filterMap item?))
  | .str s => some (attributeJson name "text" (.str s))
  | _ => none

/-- **The attributes of a flat entity**: the known texts, the known lists, the others in their
order. -/
def attributes (entity : Members) : List Json :=
  knownTexts.filterMap (knownText? entity)
    ++ knownLists.filterMap (fun name => list? name (entity.get name))
    ++ (entity.filter fun m => m.1 ∉ knownTexts ++ knownLists).filterMap fun m => other? m.1 m.2

/-- An entity with attributes. -/
def entityJson (attributes : List Json) : Json :=
  .obj [(attributesKey, .arr attributes)]

/-- Whether an entity is in the current form. -/
def isCurrent : Json → Bool
  | .obj ms =>
    match Members.get ms attributesKey with
    | .arr _ => true
    | _ => false
  | _ => false

/-- The entities of a flat state; what is no object is none. -/
def entities (state : Members) : Members :=
  state.filterMap fun (key, v) =>
    match v with
    | .obj ms => some (key, entityJson (attributes ms))
    | _ => none

/-- Whether a state is flat: it has entities, and the first is not in the current form. -/
def isFlat (state : Members) : Bool :=
  match state with
  | [] => false
  | (_, first) :: _ => !isCurrent first

/-- The entity of a speaker's clothes, when they can be read as a list. -/
def clothed? (clothes : Members) (key : Text) : Option (Text × Json) :=
  (items? (clothes.get key)).map fun items => (key, entityJson [listJson clothesKey items])

/-- **A document in the current form.** What is no object gives an empty one. There is none when
the clothes of a speaker cannot be read as a list. -/
def migrate : Json → Option Members
  | .obj ms =>
    match Members.get ms stateKey, Members.get ms clothesKey with
    | .obj state, _ =>
      some (if isFlat state then Entries.put ms stateKey (.obj (entities state)) else ms)
    | _, .obj clothes => do
      let character ← clothed? clothes characterKey
      let user ← clothed? clothes userKey
      return Entries.put (Entries.remove ms clothesKey) stateKey (.obj [character, user])
    | _, _ => some ms
  | _ => some []

end Roleplay.Legacy
