import Roleplay.Failure
import Roleplay.Json.Writer
import Roleplay.Settings

/-!
# The settings file

The settings of all purposes are kept in one document, a member for each purpose. A file that is
missing or no document counts as an empty one, and stored settings that fail a check count as the
defaults.

## Main definitions

* `SettingsFile`: the file, by its directory
* `SettingsFile.get`: the settings of a purpose
* `SettingsFile.update`: settings changed and stored
-/

namespace Roleplay

/-- **The settings file** of a directory. -/
structure SettingsFile where
  directory : Path
deriving DecidableEq, Repr

/-- The default settings of a purpose, by its word. -/
def Settings.defaultsOf (word : Text) : Except Failure Settings :=
  match Purpose.ofWord? word with
  | none => .error (.unknownPurpose word)
  | some p => .ok p.defaults

namespace SettingsFile

/-- The path of the file. -/
def path (f : SettingsFile) : Path :=
  f.directory.join "llm-settings.json"

/-- The members of the document in a text. Only a numeral that is too long is a failure. -/
def membersOf (t : Text) : Except Failure Members :=
  match Json.read t with
  | .ok (.obj ms) => .ok ms
  | .ok _ => .ok []
  | .error ⟨.tooManyDigits n, before⟩ => .error (.malformed ⟨.tooManyDigits n, before⟩)
  | .error _ => .ok []

/-- **The members of the file.** -/
def read (f : SettingsFile) (fs : FileTree) : Except Failure Members :=
  match fs.readText f.path with
  | .ok t => membersOf t
  | .error (.file fault) =>
    if fault.reason = .zeroCharacter then .error (.file fault) else .ok []
  | .error (.undecodable fault) => .error (.undecodable fault)

/-- The settings of a purpose among stored members: those stored put over the purpose's own, or
the defaults where that fails a check. -/
def settingsIn (stored : Members) (word : Text) : Except Failure Settings :=
  match Purpose.ofWord? word with
  | none => .error (.unknownPurpose word)
  | some p =>
    let own := stored.get word
    if !own.isTruthy then .ok p.defaults
    else match own with
      | .obj ms =>
        match Settings.ofJson (.obj (Entries.merge p.ownMembers ms)) with
        | .valid s => .ok s
        | .invalid _ => .ok p.defaults
      | _ => .error .wrongKind

/-- **The settings of a purpose.** -/
def get (f : SettingsFile) (fs : FileTree) (word : Text) : Except Failure Settings := do
  settingsIn (← f.read fs) word

/-- Settings with changes, which may use either name of a setting. -/
def changed (s : Settings) (changes : Members) : Except Failure Settings :=
  let changes := Entries.ofList (changes.map fun (k, v) => (Settings.storedName k, v))
  (Settings.ofJson (.obj (Entries.merge s.stored changes))).toExcept

/-- **Changing the settings of a purpose.** Nothing is written unless the changed settings hold and
their numbers can be written. -/
def update (f : SettingsFile) (fs : FileTree) (word : Text) (changes : Members) :
    FileTree × Except Failure Settings :=
  let settings : Except Failure (Members × Settings) := do
    let stored ← f.read fs
    return (stored, ← changed (← settingsIn stored word) changes)
  match settings with
  | .error e => (fs, .error e)
  | .ok (stored, s) =>
    match fs.makeDirectories f.directory with
    | .error e => (fs, .error (.file e))
    | .ok fs =>
      let document : Json := .obj (Entries.put stored word (.obj s.stored))
      if !document.isWritable then (fs, .error (.numeral .notWritable))
      else
        match fs.writeText f.path (Json.write .indented document) with
        | .error e => (fs, .error (.file e))
        | .ok fs => (fs, .ok s)

end SettingsFile

end Roleplay
