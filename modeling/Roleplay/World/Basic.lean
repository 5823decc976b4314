import Roleplay.Json.Checked
import Roleplay.Json.Lenient
import Roleplay.Text.Blank
import Roleplay.Text.Case

/-!
# The state of the world

What is known about the entities of a scene: each has attributes, and an attribute is a text or a
list of items. The attributes of an entity have distinct names, whatever the case of their
letters, and both entities and attributes keep the order in which they came.

## Main definitions

* `Item`, `Attribute`, `Entity`, `WorldState`: the parts of a state
* `Entity.find?`, `Entity.set`, `Entity.remove`, `Entity.append`: the attributes as a map by name
* `Entity.ofAttributes`: the entity of a list of attributes, repeated names joined
* `WorldState.find?`, `WorldState.ensure`, `WorldState.modify`: the entities as a map by key
* `WorldState.hasContent`: whether anything is known
-/

namespace Roleplay

/-- **An item** of a list, described or not. -/
structure Item where
  name : Text
  description : Text
deriving DecidableEq, Repr

/-- **The value of an attribute**: a text, or a list of items. -/
inductive AttributeValue
  | text (t : Text)
  | list (items : List Item)
deriving DecidableEq, Repr

/-- **A named attribute.** -/
structure Attribute where
  name : Text
  value : AttributeValue
deriving DecidableEq, Repr

/-- **An entity**: its attributes in their order. -/
structure Entity where
  attributes : List Attribute
deriving DecidableEq, Repr, Inhabited

/-- **The state of the world**: entities by their keys, in their order. -/
structure WorldState where
  entities : List (Text × Entity)
deriving DecidableEq, Repr, Inhabited

/-- Whether there is anything in a value. -/
def AttributeValue.hasContent : AttributeValue → Bool
  | text t => !t.strip.isEmpty
  | list items => !items.isEmpty

/-- Whether a value is a list. -/
def AttributeValue.isList : AttributeValue → Bool
  | text _ => false
  | list _ => true

namespace Attribute

/-- The name that tells attributes apart. -/
def key (a : Attribute) : Text :=
  a.name.lower

/-- Whether there is anything in an attribute. -/
def hasContent (a : Attribute) : Bool :=
  a.value.hasContent

end Attribute

namespace Entity

/-- The entity about which nothing is known. -/
def empty : Entity := ⟨[]⟩

/-- The attribute with a name, in any case. -/
def find? (e : Entity) (name : Text) : Option Attribute :=
  e.attributes.find? (·.key = name.lower)

/-- The text of an attribute, empty when there is none. -/
def text (e : Entity) (name : Text) : Text :=
  match e.find? name with
  | some ⟨_, .text t⟩ => t
  | _ => []

/-- The items of an attribute, none when it is no list. -/
def list (e : Entity) (name : Text) : List Item :=
  match e.find? name with
  | some ⟨_, .list items⟩ => items
  | _ => []

/-- The attributes with `a` in the place of the one of its name, or at the end. -/
def setIn (a : Attribute) : List Attribute → List Attribute
  | [] => [a]
  | b :: bs => if b.key = a.key then a :: bs else b :: setIn a bs

/-- **Setting an attribute**, in the place of the one of its name. -/
def set (e : Entity) (a : Attribute) : Entity :=
  ⟨setIn a e.attributes⟩

/-- **Removing an attribute**, and whether it was there. -/
def remove (e : Entity) (name : Text) : Entity × Bool :=
  let rest := e.attributes.filter (·.key ≠ name.lower)
  (⟨rest⟩, rest.length ≠ e.attributes.length)

/-- The attributes with an item more in the list of a key. -/
def appendIn (key : Text) (item : Item) : List Attribute → List Attribute
  | [] => []
  | a :: as =>
    if a.key = key then
      match a.value with
      | .list items => { a with value := .list (items ++ [item]) } :: as
      | .text _ => a :: as
    else a :: appendIn key item as

/-- **Appending an item** to a list; without such a list nothing changes. -/
def append (e : Entity) (name : Text) (item : Item) : Entity :=
  ⟨appendIn name.lower item e.attributes⟩

/-- Whether anything is known about an entity. -/
def hasContent (e : Entity) : Bool :=
  e.attributes.any (·.hasContent)

/-- **The entity of a list of attributes**: of equal names the last attribute, in the place of
the first. -/
def ofAttributes (as : List Attribute) : Entity :=
  as.foldl set empty

end Entity

namespace WorldState

/-- The state in which nothing is known. -/
def empty : WorldState := ⟨[]⟩

/-- The entity with a key. -/
def find? (s : WorldState) (key : Text) : Option Entity :=
  s.entities.lookup key

/-- Whether there is an entity with a key. -/
def contains (s : WorldState) (key : Text) : Bool :=
  (s.find? key).isSome

/-- The keys in their order. -/
def keys (s : WorldState) : List Text :=
  s.entities.map (·.1)

/-- The entities with that of a key changed by `f`; one that is not there comes to the end. -/
def modifyIn (key : Text) (f : Entity → Entity) : List (Text × Entity) → List (Text × Entity)
  | [] => [(key, f .empty)]
  | (k, e) :: es => if k = key then (k, f e) :: es else (k, e) :: modifyIn key f es

/-- **Changing an entity**, which is made when it is not there. -/
def modify (s : WorldState) (key : Text) (f : Entity → Entity) : WorldState :=
  ⟨modifyIn key f s.entities⟩

/-- The state with an entity of a key. -/
def ensure (s : WorldState) (key : Text) : WorldState :=
  s.modify key id

/-- The entity with a key, empty when there is none. -/
def get (s : WorldState) (key : Text) : Entity :=
  (s.find? key).getD .empty

/-- **Whether anything is known.** -/
def hasContent (s : WorldState) : Bool :=
  s.entities.any (·.2.hasContent)

end WorldState

end Roleplay
