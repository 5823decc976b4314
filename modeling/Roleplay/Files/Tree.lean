import Roleplay.Files.Path
import Roleplay.Text.Blank
import Roleplay.Text.Encoding
import Roleplay.Text.Quoted

/-!
# A tree of files

Files and directories by their places. A place is the list of names that leads from the root to
it; a path is walked to a place step by step, each step from a directory that is there.

## Main definitions

* `FileTree`, `Node`, `Place`: the tree
* `FileReason`, `FileFault`: why an operation on a file fails, and at which path
* `FileTree.locate`: the place of a path
* `FileTree.read`, `FileTree.readText`, `FileTree.write`, `FileTree.makeDirectories`,
  `FileTree.remove`, `FileTree.list`: the operations
-/

namespace Roleplay

/-- **Where a file is**: the names from the root to it. -/
abbrev Place := List Text

/-- What stands at a place. -/
inductive Node
  | directory
  | file (content : List UInt8)
deriving DecidableEq, Repr

/-- **A tree of files**: what stands at each place, and the working directory. -/
structure FileTree where
  nodes : List (Place × Node)
  working : Place
deriving Repr, Inhabited

/-- Why an operation on a file fails. -/
inductive FileReason
  | notFound
  | denied
  | alreadyThere
  | notDirectory
  | isDirectory
  | nameTooLong
  | zeroCharacter
deriving DecidableEq, Repr

namespace FileReason

/-- The number of a reason. -/
def number : FileReason → Nat
  | notFound => 2
  | denied => 13
  | alreadyThere => 17
  | notDirectory => 20
  | isDirectory => 21
  | nameTooLong => 36
  | zeroCharacter => 22

/-- The wording of a reason. -/
def message : FileReason → Text
  | notFound => "No such file or directory"
  | denied => "Permission denied"
  | alreadyThere => "File exists"
  | notDirectory => "Not a directory"
  | isDirectory => "Is a directory"
  | nameTooLong => "File name too long"
  | zeroCharacter => "embedded null byte"

end FileReason

/-- **An operation that failed**, and the path it was about. -/
structure FileFault where
  reason : FileReason
  path : Path
deriving DecidableEq, Repr

/-- The wording of a fault. A path with a zero character is no path, so it is not shown. -/
def FileFault.message (f : FileFault) : Text :=
  if f.reason = .zeroCharacter then f.reason.message
  else
    "[Errno " ++ Text.ofNat f.reason.number ++ "] ".toList ++ f.reason.message ++ ": ".toList
      ++ f.path.text.quoted

/-- Why a text cannot be read from a file. -/
inductive TextFault
  | file (fault : FileFault)
  | undecodable (fault : DecodeFault)
deriving DecidableEq, Repr

namespace FileTree

/-- The tree without any file, its working directory below the root. -/
def empty : FileTree :=
  let working : Place := ["work"]
  ⟨[(working, .directory)], working⟩

/-- What stands at a place. The root is always there. -/
def node? (fs : FileTree) (p : Place) : Option Node :=
  if p = [] then some .directory else fs.nodes.lookup p

/-- The most bytes of a name. -/
def maxName : Nat := 255

/-- One step of a walk. -/
def step (fs : FileTree) (p : Place) (name : Text) : Except FileReason Place :=
  match fs.node? p with
  | none => .error .notFound
  | some (.file _) => .error .notDirectory
  | some .directory =>
    if name = ['.', '.'] then .ok p.dropLast
    else if maxName < name.utf8.length then .error .nameTooLong
    else .ok (p ++ [name])

/-- **The place of a path.** Only the last name may lead to what is not there. -/
def locate (fs : FileTree) (p : Path) : Except FileReason Place :=
  if p.names.any (·.contains ['\x00']) then .error .zeroCharacter
  else p.names.foldlM fs.step (if p.slashes = 0 then fs.working else [])

/-- The place that a path names when all directories on it are there. -/
def aim (fs : FileTree) (p : Path) : Place :=
  let go := fun (at_ : Place) (name : Text) =>
    if name = ['.', '.'] then at_.dropLast else at_ ++ [name]
  p.names.foldl go (if p.slashes = 0 then fs.working else [])

/-- Whether a path leads to a directory. -/
def isDirectory (fs : FileTree) (p : Path) : Bool :=
  match fs.locate p with
  | .ok at_ => fs.node? at_ = some .directory
  | .error _ => false

/-- **The bytes of a file.** -/
def read (fs : FileTree) (p : Path) : Except FileFault (List UInt8) :=
  match fs.locate p with
  | .error r => .error ⟨r, p⟩
  | .ok at_ =>
    match fs.node? at_ with
    | none => .error ⟨.notFound, p⟩
    | some .directory => .error ⟨.isDirectory, p⟩
    | some (.file bytes) => .ok bytes

/-- **The text of a file**, its line ends read as line feeds. -/
def readText (fs : FileTree) (p : Path) : Except TextFault Text :=
  match fs.read p with
  | .error f => .error (.file f)
  | .ok bytes =>
    match Text.ofUtf8 bytes with
    | .error f => .error (.undecodable f)
    | .ok t => .ok t.readLineEnds

/-- The tree with a node at a place, in the stead of another one or at the end. -/
def putNode (p : Place) (n : Node) : List (Place × Node) → List (Place × Node)
  | [] => [(p, n)]
  | (q, m) :: ns => if q = p then (p, n) :: ns else (q, m) :: putNode p n ns

/-- The tree with a node at a place. -/
def put (fs : FileTree) (p : Place) (n : Node) : FileTree :=
  { fs with nodes := putNode p n fs.nodes }

/-- **Writing a file.** -/
def write (fs : FileTree) (p : Path) (bytes : List UInt8) : Except FileFault FileTree :=
  match fs.locate p with
  | .error r => .error ⟨r, p⟩
  | .ok at_ =>
    match fs.node? at_ with
    | some .directory => .error ⟨.isDirectory, p⟩
    | _ => .ok (fs.put at_ (.file bytes))

/-- Writing a text. -/
def writeText (fs : FileTree) (p : Path) (t : Text) : Except FileFault FileTree :=
  fs.write p t.utf8

/-- Making a directory that is not there. -/
def makeDirectory (fs : FileTree) (p : Path) : Except FileReason FileTree :=
  match fs.locate p with
  | .error r => .error r
  | .ok at_ =>
    match fs.node? at_ with
    | some _ => .error .alreadyThere
    | none => .ok (fs.put at_ .directory)

/-- Making a directory unless it is there, its parent being there. -/
def ensureDirectory (fs : FileTree) (p : Path) : Except FileFault FileTree :=
  match fs.makeDirectory p with
  | .ok fs => .ok fs
  | .error r => if fs.isDirectory p then .ok fs else .error ⟨r, p⟩

/-- **Making a directory** and those it lies in, as far as they are not there. -/
def makeDirectories (fs : FileTree) (p : Path) : Except FileFault FileTree :=
  match fs.makeDirectory p with
  | .error .notFound =>
    if _h : p.names = [] then .error ⟨.notFound, p⟩
    else
      match makeDirectories fs p.parent with
      | .error f => .error f
      | .ok fs => fs.ensureDirectory p
  | .error r => if fs.isDirectory p then .ok fs else .error ⟨r, p⟩
  | .ok fs => .ok fs
termination_by p.names.length
decreasing_by
  have := List.length_pos_iff.2 _h
  simp only [Path.parent, List.length_dropLast]
  omega

/-- **Removing a file.** -/
def remove (fs : FileTree) (p : Path) : Except FileFault FileTree :=
  match fs.locate p with
  | .error r => .error ⟨r, p⟩
  | .ok at_ =>
    match fs.node? at_ with
    | none => .error ⟨.notFound, p⟩
    | some .directory => .error ⟨.isDirectory, p⟩
    | some (.file _) => .ok { fs with nodes := fs.nodes.filter (·.1 ≠ at_) }

/-- The names directly below a place. -/
def below (fs : FileTree) (p : Place) : List Text :=
  fs.nodes.filterMap fun (q, _) => if q.dropLast = p then q.getLast? else none

/-- **The names in a directory**, none when there is no such directory. -/
def list (fs : FileTree) (p : Path) : List Text :=
  if fs.isDirectory p then
    match fs.locate p with
    | .ok at_ => fs.below at_
    | .error _ => []
  else []

end FileTree

end Roleplay
