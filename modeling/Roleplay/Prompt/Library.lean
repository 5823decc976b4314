import Roleplay.Failure
import Roleplay.Prompt.Builtin

/-!
# The prompt library

An author keeps templates in a directory; each prompt has an address there and a built-in template
that stands for it where the directory has none. A directory is read anew for each prompt, so an
edit shows at once.

## Main definitions

* `TemplateAddress`: a category and a name
* `TemplateSource`: a template for each address, or why there is none
* `TemplateDirectory.source`: the source of a directory
* `Prompt.load`: the template of an address, or the built-in one
* `Prompt.loadChat`, `Prompt.loadImpersonation`, `Prompt.loadNarration`, `Prompt.loadWorldState`,
  `Prompt.loadWritingStyle`: the prompts
-/

namespace Roleplay

/-- **The address of a template.** -/
structure TemplateAddress where
  category : Text
  name : Text
deriving DecidableEq, Repr

/-- Why a source has no template for an address. -/
inductive TemplateFault
  | absent
  | unreadable (fault : FileFault)
  | undecodable (fault : DecodeFault)
deriving DecidableEq, Repr

/-- **A source of templates.** -/
abbrev TemplateSource := TemplateAddress → Except TemplateFault Text

/-- Why a source has no template for an address, as a failure. -/
def TemplateFault.failure (a : TemplateAddress) : TemplateFault → Failure
  | absent => .noTemplate a.category a.name
  | unreadable f => .file f
  | undecodable f => .undecodable f

/-- Whether the built-in template stands in for the one that is not had. -/
def TemplateFault.allowsDefault : TemplateFault → Bool
  | absent => true
  | unreadable f => f.reason ≠ .zeroCharacter
  | undecodable _ => false

/-- **A directory of templates.** -/
structure TemplateDirectory where
  path : Path
deriving DecidableEq, Repr

namespace TemplateDirectory

/-- The name of the file of an address, without its ending. -/
def stemOf (a : TemplateAddress) : Text :=
  if a.category = "system".toList then "chat_system"
  else if a.category = "impersonate".toList then
    if a.name = Prompt.plainStyle then "chat_impersonate" else "impersonate_" ++ a.name
  else if a.category = "narration".toList then "action_" ++ a.name
  else if a.category = "world".toList then "world_generation"
  else if a.category = "style".toList then "writing_style"
  else a.category ++ '_' :: a.name

/-- The file of an address. -/
def file (d : TemplateDirectory) (a : TemplateAddress) : Path :=
  d.path.join (stemOf a ++ ".txt".toList)

/-- Whether a fault means that there is no such file. -/
def isAbsence (f : FileFault) : Bool :=
  f.reason = .notFound || f.reason = .isDirectory || f.reason = .notDirectory

/-- **The source of a directory.** -/
def source (d : TemplateDirectory) (fs : FileTree) : TemplateSource := fun a =>
  match fs.readText (d.file a) with
  | .ok t => .ok t
  | .error (.file f) => if isAbsence f then .error .absent else .error (.unreadable f)
  | .error (.undecodable f) => .error (.undecodable f)

end TemplateDirectory

namespace Prompt

/-- **The template of an address**, or the one that stands in for it. -/
def load (source : TemplateSource) (a : TemplateAddress) (default : Text) : Except Failure Text :=
  match source a with
  | .ok t => .ok t
  | .error f => if f.allowsDefault then .ok default else .error (f.failure a)

/-- The template of a reply. -/
def loadChat (source : TemplateSource) : Except Failure Text :=
  load source ⟨"system", "default"⟩ chat

/-- The style that is given, or the plain one. -/
def styleOf (style : Option Text) : Text :=
  Text.given style plainStyle

/-- The template of a message in the user's name, in a style. -/
def loadImpersonation (source : TemplateSource) (style : Option Text) : Except Failure Text :=
  load source ⟨"impersonate", styleOf style⟩ impersonation

/-- The template of a kind of narration. -/
def loadNarration (source : TemplateSource) (kind : Text) : Except Failure Text :=
  load source ⟨"narration", kind⟩ (narration kind)

/-- The template of the state of the world, trimmed. -/
def loadWorldState (source : TemplateSource) : Except Failure Text :=
  (load source ⟨"world", "default"⟩ worldState).map Text.strip

/-- The author's notes on style, empty where there are none. -/
def loadWritingStyle (source : TemplateSource) : Except Failure Text :=
  load source ⟨"style", "default"⟩ []

end Prompt

end Roleplay
