import Roleplay.Files.Tree
import Roleplay.Json.Writer
import Roleplay.Message

/-!
# The prompt log

The last few prompts of each kind are kept as documents, each beside the response to it, so that an
author can look at them. Logging never stands in the way: whatever fails while a document is
written, the tree is left as far as it came.

A prompt and its response share an id, the name of their files up to the first point. Ids sort by
the time of their making, and after each writing only the files of the greatest ids are kept.

## Main definitions

* `Moment`: what an id and a document take from the clock
* `PromptLog`, `PromptLog.idOf`: the log, and the id of its next prompt
* `PromptEntry`, `ResponseEntry`: what is logged
* `PromptLog.kept`: the ids that stay
* `PromptLog.writePrompt`, `PromptLog.writeResponse`: the operations
-/

namespace Roleplay

/-- **What is taken from the clock**: a text that sorts by time, one for the eye, and one that
tells processes apart. -/
structure Moment where
  stamp : Text
  shown : Text
  mark : Text
deriving DecidableEq, Repr, Inhabited

/-- **A prompt**: what is sent, what for, about whom, and to whom it speaks. -/
structure PromptEntry where
  messages : List Message
  tag : Text
  subject : Text
  user : Text
deriving DecidableEq, Repr

/-- **A response**: as it came, as it was used, and what is known about it. -/
structure ResponseEntry where
  tag : Text
  raw : Text
  used : Text
  details : Json
deriving Repr

/-- **The prompt log**: its directory, how many ids of each tag are kept, and how many prompts
were logged. -/
structure PromptLog where
  directory : Path
  keep : Int := 5
  count : Nat := 0
deriving DecidableEq, Repr

namespace PromptLog

/-- The id of the next prompt. -/
def idOf (l : PromptLog) (m : Moment) : Text :=
  m.stamp ++ '-' :: Text.padLeft 6 (Text.ofNat l.count) ++ '-' :: m.mark

/-- The document of a prompt. -/
def promptJson (id : Text) (m : Moment) (p : PromptEntry) : Json :=
  .obj [("id", .str id), ("tag", .str p.tag), ("character", .str p.subject), ("user", .str p.user),
    ("timestamp", .str m.shown), ("messages", .arr (p.messages.map Message.prompt))]

/-- The document of a response. -/
def responseJson (id : Text) (m : Moment) (r : ResponseEntry) : Json :=
  .obj [("id", .str id), ("tag", .str r.tag), ("timestamp", .str m.shown), ("raw", .str r.raw),
    ("normalized", .str r.used), ("meta", if r.details.isTruthy then r.details else .obj [])]

/-- The id of a file: its name up to the first point. -/
def idOfFile (name : Text) : Text :=
  name.takeWhile (· ≠ '.')

/-- Whether a file is a document. -/
def isDocument (name : Text) : Bool :=
  Text.startsWith name.reverse (".json".toList).reverse

/-- The ids of files in rising order, each once. -/
def sortedIds (names : List Text) : List Text :=
  ((names.map idOfFile).eraseDups).mergeSort Text.le

/-- How many ids are kept: one at least. -/
def limit (l : PromptLog) : Nat :=
  l.keep.toNat.max 1

/-- **The ids that stay**: the greatest of those of the documents. -/
def kept (l : PromptLog) (names : List Text) : List Text :=
  let ids := sortedIds names
  ids.drop (ids.length - l.limit)

/-- Files removed one after another, up to the first that cannot be removed. -/
def removeAll (directory : Path) : List Text → FileTree → FileTree
  | [], fs => fs
  | n :: ns, fs =>
    match fs.remove (directory.join n) with
    | .ok fs => removeAll directory ns fs
    | .error _ => fs

/-- **Pruning** a directory: the documents whose ids do not stay are removed. -/
def prune (l : PromptLog) (directory : Path) (fs : FileTree) : FileTree :=
  let documents := (fs.list directory).filter isDocument
  let kept := l.kept documents
  removeAll directory (documents.filter fun n => idOfFile n ∉ kept) fs

/-- A document written to the directory of a tag, which is pruned then. -/
def store (l : PromptLog) (fs : FileTree) (tag name : Text) (document : Json) : FileTree :=
  let directory := l.directory.join tag
  match fs.makeDirectories directory with
  | .error _ => fs
  | .ok fs =>
    match fs.writeText (directory.join name) (Json.write .indentedText document) with
    | .error _ => fs
    | .ok fs => l.prune directory fs

/-- **Logging a prompt**, under an id that is given back. -/
def writePrompt (l : PromptLog) (fs : FileTree) (m : Moment) (p : PromptEntry) :
    PromptLog × FileTree × Text :=
  let id := l.idOf m
  ({ l with count := l.count + 1 },
    l.store fs p.tag (id ++ ".prompt.json".toList) (promptJson id m p), id)

/-- **Logging a response** under the id of its prompt. -/
def writeResponse (l : PromptLog) (fs : FileTree) (m : Moment) (id : Text) (r : ResponseEntry) :
    FileTree :=
  l.store fs r.tag (id ++ ".response.json".toList) (responseJson id m r)

end PromptLog

end Roleplay
