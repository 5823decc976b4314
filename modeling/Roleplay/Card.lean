import Roleplay.Json.Reader
import Roleplay.Json.Writer

/-!
# Character cards

A card describes a character in eight free texts. It is a JSON object, either with the texts as its
members or with such an object as its member `data`. A value of another kind is written out as
text, so a card is refused only when it is no JSON object at all.

## Main definitions

* `Card`: the eight texts
* `Card.fieldText`: the text of a member
* `Card.ofJson`, `Card.read`, `Card.readBytes`: a card from a document, its text or its bytes
* `Card.Fault`, `Card.Fault.message`: why there is no card
-/

namespace Roleplay

/-- **A character card.** -/
structure Card where
  name : Text := []
  description : Text := []
  personality : Text := []
  scenario : Text := []
  greeting : Text := []
  exampleDialogue : Text := []
  systemPrompt : Text := []
  postHistory : Text := []
deriving DecidableEq, Repr

namespace Card

/-- The text of a value that stands alone or in a list of such values: nothing for null, a string
as it is, the document of anything else. -/
def scalarText : Json → Text
  | .null => []
  | .str s => s
  | .bool b => Json.write .ascii (.bool b)
  | .int i => Json.write .ascii (.int i)
  | .float x => Json.write .ascii (.float x)
  | v => Json.write .plain v

/-- Whether a value holds no other values. -/
def isScalar : Json → Bool
  | .arr _ => false
  | .obj _ => false
  | _ => true

/-- **The text of a member**: a list without lists and objects in it has its items after one
another, and everything else that holds values its document. -/
def fieldText : Json → Text
  | .arr xs =>
    if xs.all isScalar then Text.join [',', ' '] (xs.map scalarText) else Json.write .plain (.arr xs)
  | v => scalarText v

/-- The card of an object. -/
def ofMembers (ms : Members) : Card :=
  let field := fun k : Text => fieldText (ms.get k)
  { name := field "name"
    description := field "description"
    personality := field "personality"
    scenario := field "scenario"
    greeting := field "first_mes"
    exampleDialogue := field "mes_example"
    systemPrompt := field "system_prompt"
    postHistory := field "post_history_instructions" }

/-- The document of a card. -/
def toJson (c : Card) : Json :=
  .obj [("name", .str c.name), ("description", .str c.description),
    ("personality", .str c.personality), ("scenario", .str c.scenario),
    ("first_mes", .str c.greeting), ("mes_example", .str c.exampleDialogue),
    ("system_prompt", .str c.systemPrompt), ("post_history_instructions", .str c.postHistory)]

/-- Why there is no card. -/
inductive Fault
  | malformed (fault : Json.ReadFault)
  | notObject (kind : Text)
  | undecodable (fault : DecodeFault)
deriving DecidableEq, Repr

/-- Whether a fault is one of the card: the bytes are a text and its numerals can be read. -/
def Fault.isOfCard : Fault → Bool
  | .malformed ⟨.tooManyDigits _, _⟩ => false
  | .undecodable _ => false
  | _ => true

/-- The wording of a fault. -/
def Fault.message : Fault → Text
  | .malformed ⟨.tooManyDigits n, before⟩ => Json.ReadFault.message ⟨.tooManyDigits n, before⟩
  | .malformed f => "Invalid character card data: " ++ f.message
  | .notObject kind => "Invalid character card data: expected an object, got " ++ kind
  | .undecodable f => f.message

/-- **A card from a document**: the member `data` where it is an object, the document itself
otherwise. -/
def ofJson : Json → Except Fault Card
  | .obj ms =>
    match Members.get ms "data" with
    | .obj inner => .ok (ofMembers inner)
    | _ => .ok (ofMembers ms)
  | v => .error (.notObject v.kind)

/-- **A card from the text of a document**; no text is the card of an empty object. -/
def read (t : Text) : Except Fault Card :=
  if t.isEmpty then .ok {}
  else match Json.read t with
    | .error f => .error (.malformed f)
    | .ok v => ofJson v

/-- A card from the bytes of a document. -/
def readBytes (bytes : List UInt8) : Except Fault Card :=
  if bytes.isEmpty then .ok {}
  else match Json.readBytes bytes with
    | .error (.decode f) => .error (.undecodable f)
    | .error (.read f) => .error (.malformed f)
    | .ok v => ofJson v

end Card

end Roleplay
