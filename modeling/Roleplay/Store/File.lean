import Roleplay.Files.Tree
import Roleplay.Json.Reader
import Roleplay.Json.Writer
import Roleplay.Store.Documents

/-!
# The file of the store

Between two runs the store lies in a file: a line that tells what the file is, and a document with
the tables. A file without content, or with a single byte, counts as one that is not there.

## Main definitions

* `Store.toJson`, `Store.ofJson`: the document of a store
* `Store.bytes`, `Store.ofBytes?`: the content of its file
* `StoreFile.open`, `StoreFile.save`: reading the file and writing it
-/

namespace Roleplay

namespace Table

variable {α : Type}

/-- The document of a table. -/
def toJson (row : α → Json) (t : Table α) : Json :=
  .obj [("last_id", .int t.lastId), ("rows", .arr (t.rows.map row))]

/-- A table from its document. -/
def ofJson (row : Json → Checked α) : Json → Checked (Table α) :=
  Checked.object fun ms =>
    mk <$> ms.required ["last_id"] Json.asInteger <*> ms.required ["rows"] (Checked.array row)

end Table

namespace Store

/-- **The document of a store.** -/
def toJson (s : Store) : Json :=
  .obj [("users", s.users.toJson User.toJson), ("personas", s.personas.toJson Persona.toJson),
    ("characters", s.characters.toJson Character.toJson),
    ("conversations", s.conversations.toJson Conversation.toJson),
    ("messages", s.messages.toJson StoredMessage.toJson),
    ("lore", s.lore.toJson LoreEntry.toJson),
    ("participants", s.participants.toJson Participant.toJson)]

/-- **A store from its document**; it is open. -/
def ofJson : Json → Checked Store :=
  Checked.object fun ms =>
    mk false <$> ms.required ["users"] (Table.ofJson User.ofJson)
      <*> ms.required ["personas"] (Table.ofJson Persona.ofJson)
      <*> ms.required ["characters"] (Table.ofJson Character.ofJson)
      <*> ms.required ["conversations"] (Table.ofJson Conversation.ofJson)
      <*> ms.required ["messages"] (Table.ofJson StoredMessage.ofJson)
      <*> ms.required ["lore"] (Table.ofJson LoreEntry.ofJson)
      <*> ms.required ["participants"] (Table.ofJson Participant.ofJson)

/-- The line that tells what the file is. -/
def heading : Text := "roleplay store 1\n"

/-- **The content of the file of a store.** -/
def bytes (s : Store) : List UInt8 :=
  (heading ++ Json.write .compact s.toJson).utf8

/-- **The store in the content of a file**, none when the file is something else. -/
def ofBytes? (content : List UInt8) : Option Store := do
  if content.length ≤ 1 then return .empty
  let text ← (Text.ofUtf8 content).toOption
  let document ← text.dropPrefix? heading
  (ofJson (← (Json.read document).toOption)).toOption

end Store

/-- **Where the store lies.** -/
structure StoreFile where
  path : Path
deriving DecidableEq, Repr

namespace StoreFile

/-- The path of a store that does not outlast a run. -/
def memory : Path := .ofText ":memory:"

/-- The store at a place of the tree, a new one where there is no file. -/
def load (f : StoreFile) (fs : FileTree) : Except StoreFault Store :=
  match (fs.locate f.path).map fs.node? with
  | .ok none => .ok .empty
  | .ok (some (.file content)) =>
    match Store.ofBytes? content with
    | some s => .ok s
    | none => .error (.notDatabase f.path.text)
  | _ => .error (.cannotOpen f.path.text)

/-- **Opening the store.** The directory of its file is made where it is missing, and stays also if
the file cannot be opened. -/
def «open» (f : StoreFile) (fs : FileTree) : FileTree × Except Failure Store :=
  if f.path = memory then (fs, .ok .empty)
  else
    match fs.makeDirectories f.path.parent with
    | .error e => (fs, .error (.file e))
    | .ok fs => (fs, (f.load fs).mapError .store)

/-- **Saving the store** to its file. -/
def save (f : StoreFile) (s : Store) (fs : FileTree) : FileTree :=
  if f.path = memory then fs else (fs.write f.path s.bytes).toOption.getD fs

end StoreFile

end Roleplay
