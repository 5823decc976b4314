import Roleplay.World.Basic

/-!
# World states as documents

The JSON form of a state: an object of entities by key, each an object with its attributes.
Reading checks every field.

## Main definitions

* `Item.toJson`, `Attribute.toJson`, `Entity.toJson`, `WorldState.toJson`
* `Item.ofJson`, `Attribute.ofJson`, `Entity.ofJson`, `WorldState.ofJson`
-/

namespace Roleplay

namespace Item

/-- The document of an item. -/
def toJson (i : Item) : Json :=
  .obj [("name", .str i.name), ("description", .str i.description)]

/-- An item from its document; the description may be missing. -/
def ofJson : Json → Checked Item :=
  Checked.object fun ms =>
    mk <$> ms.required ["name"] Json.asText <*> ms.optional ["description"] [] Json.asText

end Item

namespace AttributeValue

/-- The document of a value. -/
def toJson : AttributeValue → Json
  | text t => .str t
  | list items => .arr (items.map Item.toJson)

/-- The name of the type of a value. -/
def typeName : AttributeValue → Text
  | text _ => "text"
  | list _ => "list"

/-- A value from its document: a text, or a list of items. Whatever fails below it is a fault of
the value. -/
def ofJson : Json → Checked AttributeValue
  | .str t => .valid (.text t)
  | v =>
    match Checked.array Item.ofJson v with
    | .valid items => .valid (.list items)
    | .invalid _ => .invalid [[]]

end AttributeValue

namespace Attribute

/-- The document of an attribute. -/
def toJson (a : Attribute) : Json :=
  .obj [("name", .str a.name), ("type", .str a.value.typeName), ("value", a.value.toJson)]

/-- Whether a type is called for a list, when it is the name of a type. -/
def typeOfJson : Json → Checked Bool
  | .str t =>
    if t = "text".toList then .valid false
    else if t = "list".toList then .valid true
    else .invalid [[]]
  | _ => .invalid [[]]

/-- An attribute from its document. A value of another type than the one named is a fault of the
attribute. -/
def ofJson : Json → Checked Attribute :=
  Checked.object fun ms =>
    let fields : Checked (Text × Bool × AttributeValue) :=
      (fun n l v => (n, l, v)) <$> ms.required ["name"] Json.asText
        <*> ms.required ["type"] typeOfJson <*> ms.required ["value"] AttributeValue.ofJson
    (fields.ensure fun (_, isList, v) => v.isList = isList).map fun (n, _, v) => ⟨n, v⟩

end Attribute

namespace Entity

/-- The documents of the attributes. -/
def attributesJson (e : Entity) : Json :=
  .arr (e.attributes.map Attribute.toJson)

/-- The document of an entity. -/
def toJson (e : Entity) : Json :=
  .obj [("attributes", e.attributesJson)]

/-- An entity from its document; attributes may be missing, and repeated ones are joined. -/
def ofJson : Json → Checked Entity :=
  Checked.object fun ms =>
    (ms.optional ["attributes"] [] (Checked.array Attribute.ofJson)).map ofAttributes

end Entity

namespace WorldState

/-- The document of a state. -/
def toJson (s : WorldState) : Json :=
  .obj (s.entities.map fun (k, e) => (k, e.toJson))

/-- A state from its document. -/
def ofJson : Json → Checked WorldState :=
  Checked.object fun ms => (Checked.members Entity.ofJson ms).map mk

end WorldState

end Roleplay
