import Roleplay.Card
import Roleplay.Files.Tree
import Roleplay.World.Info

/-!
# Failures

Why an operation of the library does not answer. Each constructor is a cause; its wording is given
by one function.

## Main definitions

* `StoreFault`: why the store refuses a statement
* `Failure`, `Failure.message`
-/

namespace Roleplay

/-- **Why the store refuses a statement.** -/
inductive StoreFault
  | closed
  | notDatabase (path : Text)
  | cannotOpen (path : Text)
  | missingValue (table column : Text)
  | repeatedValue (table column : Text)
  | brokenReference
  | notStorable (position : Nat)
  | numberTooLarge
deriving DecidableEq, Repr

/-- The wording of a fault of the store. -/
def StoreFault.message : StoreFault → Text
  | closed => "Database error: Cannot operate on a closed database."
  | notDatabase path => "Could not open database " ++ path ++ ": file is not a database".toList
  | cannotOpen path => "Could not open database " ++ path ++ ": unable to open database file".toList
  | missingValue table column =>
    "Database error: NOT NULL constraint failed: " ++ table ++ '.' :: column
  | repeatedValue table column =>
    "Database error: UNIQUE constraint failed: " ++ table ++ '.' :: column
  | brokenReference => "Database error: FOREIGN KEY constraint failed"
  | notStorable position =>
    "Database error: Error binding parameter " ++ Text.ofNat position
      ++ ": type 'list' is not supported".toList
  | numberTooLarge => "Python int too large to convert to SQLite INTEGER"

/-- **Why an operation does not answer.** -/
inductive Failure
  /-- Fields of a document that fail, by their paths. -/
  | invalid (fields : List Text)
  /-- A text that is no document. -/
  | malformed (fault : Json.ReadFault)
  /-- A broken character card. -/
  | card (fault : Card.Fault)
  /-- Bytes that are no text. -/
  | undecodable (fault : DecodeFault)
  /-- A value of a kind that is not taken where it stands. -/
  | wrongKind
  /-- A value without a member that it should have. -/
  | missingMember
  /-- A text that is no number. -/
  | numeral (fault : Numeral.Fault)
  /-- A template that its source does not have. -/
  | noTemplate (category name : Text)
  /-- An answer without anything that tells of the world. -/
  | noWorldState
  /-- A provider that does not answer. -/
  | gateway (text : Text)
  | store (fault : StoreFault)
  | file (fault : FileFault)
  | unknownPurpose (word : Text)
  | unknownConversation (id : Option Int)
  | noCharacter (conversation : Option Int)
  | unknownScenario (id : Text)
  | unknownProvider (name : Text)
  | noItem
  | noKey (name : Text)
  | noModel
  | noSceneStore
  | noWorldStore
deriving Repr

/-- The text of an id that may be missing. -/
def idText : Option Int → Text
  | none => "None"
  | some i => Text.ofInt i

namespace Failure

/-- Fields that fail, as a failure. -/
def ofFields (fields : List FieldPath) : Failure :=
  invalid (Checked.report fields)

/-- Why a text cannot be read from a file, as a failure. -/
def ofText : TextFault → Failure
  | .file f => file f
  | .undecodable f => undecodable f

/-- Why there is no world info in a text, as a failure. -/
def ofWorldInfo : WorldInfo.Fault → Failure
  | .malformed f => malformed f
  | .notListable => wrongKind
  | .invalid fields => ofFields fields

/-- **The wording of a failure.** Fields that fail are not worded. -/
def message : Failure → Text
  | invalid _ => "<ValidationError>"
  | malformed f => f.message
  | card f => f.message
  | undecodable f => f.message
  | wrongKind => []
  | missingMember => []
  | numeral f => f.message
  | noTemplate category name => "Template not found: " ++ category ++ '/' :: name
  | noWorldState => "No world state could be extracted from the response"
  | gateway t => t
  | store f => f.message
  | file f => f.message
  | unknownPurpose w => w.quoted
  | unknownConversation id => "Conversation " ++ idText id ++ " not found".toList
  | noCharacter id => "No character for conversation " ++ idText id
  | unknownScenario id => "Scenario '" ++ id ++ "' not found".toList
  | unknownProvider name => "Unknown LLM provider: " ++ name
  | noItem => "look_item narration needs an item"
  | noKey name => name ++ " environment variable not set.".toList
  | noModel => "No model given and OPENAI_API_MODEL is not set."
  | noSceneStore => "Scene narration needs a database and settings service"
  | noWorldStore => "WorldStateGenerationService has no world info store"

end Failure

/-- Whether a failure has a cause outside of the program; the others are its own faults. -/
def Failure.isExpected : Failure → Bool
  | wrongKind | missingMember | noSceneStore | noWorldStore => false
  | store .numberTooLarge => false
  | _ => true

/-- A checked value, or its failing fields as a failure. -/
def Checked.toExcept {α : Type} : Checked α → Except Failure α
  | .valid a => .ok a
  | .invalid fields => .error (.ofFields fields)

end Roleplay
