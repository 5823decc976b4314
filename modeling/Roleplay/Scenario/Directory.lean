import Roleplay.Failure
import Roleplay.Scenario.Basic

/-!
# The scenario directory

Scenarios are kept in a directory, each in a text file named by its id. What stands in such a file
is trimmed as it is written and as it is read.

## Main definitions

* `ScenarioDirectory`: the directory
* `ScenarioDirectory.save`, `ScenarioDirectory.get`, `ScenarioDirectory.delete`,
  `ScenarioDirectory.all`: the operations
-/

namespace Roleplay

/-- **A scenario directory.** -/
structure ScenarioDirectory where
  path : Path
deriving DecidableEq, Repr

namespace ScenarioDirectory

/-- The ending of the files. -/
def ending : Text := ".txt"

/-- The file of an id. -/
def file (d : ScenarioDirectory) (id : Text) : Path :=
  d.path.join (id ++ ending)

/-- **Saving a scenario** under the id of its name. The directory is made where it is missing, and
stays even if the file cannot be written. -/
def save (d : ScenarioDirectory) (fs : FileTree) (name content : Text) :
    FileTree × Except Failure Scenario :=
  let id := Scenario.idOfName name
  match fs.makeDirectories d.path with
  | .error f => (fs, .error (.file f))
  | .ok fs =>
    match fs.writeText (d.file id) content.strip with
    | .error f => (fs, .error (.file f))
    | .ok fs => (fs, .ok ⟨id, Scenario.nameOfId id, content.strip⟩)

/-- Whether a fault only means that there is no such file to read. -/
def isAbsence (f : FileFault) : Bool :=
  f.reason ≠ .zeroCharacter

/-- The scenario in a file, none when the file cannot be opened. -/
def load (fs : FileTree) (id : Text) (file : Path) : Except Failure (Option Scenario) :=
  match fs.readText file with
  | .ok t => .ok (some ⟨id, Scenario.nameOfId id, t.strip⟩)
  | .error (.file f) => if isAbsence f then .ok none else .error (.file f)
  | .error (.undecodable f) => .error (.undecodable f)

/-- **The scenario of an id.** -/
def get (d : ScenarioDirectory) (fs : FileTree) (id : Text) : Except Failure (Option Scenario) :=
  load fs id (d.file id)

/-- **Deleting a scenario**, and whether there was one. -/
def delete (d : ScenarioDirectory) (fs : FileTree) (id : Text) : FileTree × Except Failure Bool :=
  match fs.remove (d.file id) with
  | .ok fs => (fs, .ok true)
  | .error f => (fs, if f.reason = .notFound then .ok false else .error (.file f))

/-- The names of the files of scenarios. -/
def fileNames (d : ScenarioDirectory) (fs : FileTree) : List Text :=
  (fs.list d.path).filter fun n => Text.startsWith n.reverse ending.reverse

/-- The order of scenarios: by their names in small letters. -/
def precedes (s t : Scenario) : Bool :=
  Text.le s.name.lower t.name.lower

/-- **All scenarios**, in the order of their names. -/
def all (d : ScenarioDirectory) (fs : FileTree) : FileTree × Except Failure (List Scenario) :=
  match fs.makeDirectories d.path with
  | .error f => (fs, .error (.file f))
  | .ok fs =>
    let load := fun n : Text => load fs (Path.stemOf n) (d.path.join n)
    let loaded := (d.fileNames fs).mapM load
    (fs, loaded.map fun ss => (ss.filterMap id).mergeSort precedes)

end ScenarioDirectory

end Roleplay
