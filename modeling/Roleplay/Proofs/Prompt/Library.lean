import Roleplay.Proofs.Files.Directory
import Roleplay.Proofs.Text.Strip
import Roleplay.Prompt.Library

/-!
# Loading templates

A prompt is loaded from the file that its request names, as the directory stands when it is asked
for: nothing is remembered, so of all edits to a file the last one counts. A file that can be read
gives its text. A file that is missing, a directory in its place, and a path that leads nowhere give
the built-in template.

Two kinds of file give neither: one whose bytes are no text, and one whose name has a zero
character, which a kind of narration or a style may bring in.

## Main definitions

* `FileTree.Edit`, `FileTree.edited`: edits of a tree, and what stands at a place after some
* `Prompt.Request`: what can be asked for
* `Prompt.Request.answer`: what is loaded, from what stands at the place of the file

## Main results

* `FileTree.node?_foldl_edit`: the last edit of a place counts
* `Prompt.Request.load_of_locate`, `Prompt.Request.load_of_not_locate`: what is loaded from a tree
* `Prompt.Request.load_after_edits`: what is loaded after any edits, and when nothing is
-/

namespace Roleplay

open Text

/-! ## Edits -/

namespace FileTree

/-- **An edit** of a tree: what stands at a place from then on, if anything does. -/
structure Edit where
  place : Place
  node : Option Node

/-- A tree after an edit. -/
def edit (fs : FileTree) (e : Edit) : FileTree :=
  match e.node with
  | some n => fs.put e.place n
  | none => fs.clear e.place

/-- **What stands at a place** after some edits: what the last edit of it put there, or else what
stood there before. -/
def edited (fs : FileTree) (edits : List Edit) (q : Place) : Option Node :=
  ((edits.reverse.find? (·.place = q)).map Edit.node).getD (fs.node? q)

variable {fs : FileTree} {edits : List Edit}

theorem node?_edit {e : Edit} (he : e.place ≠ []) (q : Place) :
    (fs.edit e).node? q = if q = e.place then e.node else fs.node? q := by
  rw [edit]
  split
  · next n hn => rw [node?_put fs he, hn]
  · next hn => rw [node?_clear fs he, hn]

/-- **Of all edits of a place** the last one counts. -/
theorem node?_foldl_edit (hedits : ∀ e ∈ edits, e.place ≠ []) (q : Place) :
    (edits.foldl edit fs).node? q = fs.edited edits q := by
  induction edits generalizing fs with
  | nil => rfl
  | cons e edits ih =>
    obtain ⟨he, hedits⟩ := List.forall_mem_cons.mp hedits
    rw [List.foldl_cons, ih hedits, edited, edited, node?_edit he, List.reverse_cons,
      List.find?_append]
    cases edits.reverse.find? (·.place = q) with
    | some e' => rfl
    | none =>
      by_cases hq : e.place = q
      · simp [hq]
      · simp [hq, Ne.symm hq]

end FileTree

/-! ## Requests -/

namespace Prompt

/-- **What can be asked for**: a prompt of each kind. -/
inductive Request
  | chat
  | impersonation (style : Option Text)
  | narration (kind : Text)
  | worldState
  | writingStyle

namespace Request

/-- The prompt that is asked for, from a source. -/
def load (source : TemplateSource) : Request → Except Failure Text
  | chat => loadChat source
  | impersonation style => loadImpersonation source style
  | narration kind => loadNarration source kind
  | worldState => loadWorldState source
  | writingStyle => loadWritingStyle source

/-- The name of the file that has the template, without its ending. -/
def stem : Request → Text
  | chat => "chat_system"
  | impersonation style =>
    if styleOf style = plainStyle then "chat_impersonate" else "impersonate_" ++ styleOf style
  | narration kind => "action_" ++ kind
  | worldState => "world_generation"
  | writingStyle => "writing_style"

/-- The name of the file that has the template. -/
def fileName (r : Request) : Text :=
  r.stem ++ ".txt".toList

/-- The template that stands in. -/
def builtin : Request → Text
  | chat => Prompt.chat
  | impersonation _ => Prompt.impersonation
  | narration kind => Prompt.narration kind
  | worldState => Prompt.worldState
  | writingStyle => []

/-- A template as it is given: that of the state of the world is trimmed. -/
def trimmed : Request → Text → Text
  | worldState, t => t.strip
  | _, t => t

/-- **What is loaded**, from what stands at the place of the file. -/
def answer (r : Request) : Option Node → Except Failure Text
  | some (.file bytes) =>
    match ofUtf8 bytes with
    | .ok t => .ok (r.trimmed t.readLineEnds)
    | .error fault => .error (.undecodable fault)
  | _ => .ok r.builtin

variable {d : TemplateDirectory} {fs : FileTree} {r : Request} {q : Place}

/-- The address of the template. -/
def address : Request → TemplateAddress
  | chat => ⟨"system", "default"⟩
  | impersonation style => ⟨"impersonate", styleOf style⟩
  | narration kind => ⟨"narration", kind⟩
  | worldState => ⟨"world", "default"⟩
  | writingStyle => ⟨"style", "default"⟩

theorem stemOf_address (r : Request) : TemplateDirectory.stemOf r.address = r.stem := by
  -- the categories differ as texts, which is settled once and not while the branches are matched
  cases r with
  | chat => decide
  | impersonation style =>
    have hsystem : "impersonate".toList ≠ "system".toList := by decide
    exact (if_neg hsystem).trans (if_pos rfl)
  | narration kind =>
    have hsystem : "narration".toList ≠ "system".toList := by decide
    have himpersonate : "narration".toList ≠ "impersonate".toList := by decide
    exact (if_neg hsystem).trans ((if_neg himpersonate).trans (if_pos rfl))
  | worldState => decide
  | writingStyle => decide

/-- The file is that of the address. -/
theorem file_address (d : TemplateDirectory) (r : Request) :
    d.file r.address = d.path.join r.fileName := by
  rw [TemplateDirectory.file, stemOf_address, fileName]

/-- The built-in templates are trimmed already. -/
theorem trimmed_builtin (r : Request) : r.trimmed r.builtin = r.builtin := by
  cases r with
  | worldState =>
    -- only the first and the last piece matter
    have hhead : Prompt.worldState.head? = some 'G' := by
      rw [Prompt.worldState, pieces, List.head?_flatten]
      decide +kernel
    have hlast : Prompt.worldState.getLast? = some 'n' := by
      rw [Prompt.worldState, pieces, List.getLast?_flatten]
      decide +kernel
    refine stripWhere_eq_self_iff.mpr ⟨?_, ?_⟩
    · rw [builtin, hhead]
      rintro c ⟨⟩
      decide
    · rw [builtin, hlast]
      rintro c ⟨⟩
      decide
  | _ => rfl

theorem load_eq (source : TemplateSource) (r : Request) :
    r.load source = (Prompt.load source r.address r.builtin).map r.trimmed := by
  cases r with
  | worldState => rfl
  | _ => exact (congrFun Except.map_id _).symm

/-- **What is loaded**, by what reading the file comes to. -/
theorem load_source (d : TemplateDirectory) (fs : FileTree) (r : Request) :
    r.load (d.source fs) = match fs.readText (d.path.join r.fileName) with
      | .ok t => .ok (r.trimmed t)
      | .error (.undecodable fault) => .error (.undecodable fault)
      | .error (.file fault) =>
        if fault.reason = .zeroCharacter then .error (.file fault) else .ok r.builtin := by
  rw [load_eq, Prompt.load, TemplateDirectory.source, file_address]
  cases fs.readText (d.path.join r.fileName) with
  | ok t => rfl
  | error e =>
    cases e with
    | undecodable fault => rfl
    | file fault =>
      have hbuiltin : (Except.ok r.builtin : Except Failure Text).map r.trimmed = .ok r.builtin :=
        congrArg Except.ok r.trimmed_builtin
      obtain ⟨reason, path⟩ := fault
      cases reason
      case zeroCharacter => rfl
      all_goals exact hbuiltin

/-- **From a file that is reached**, what stands there is loaded. -/
theorem load_of_locate (h : fs.locate (d.path.join r.fileName) = .ok q) :
    r.load (d.source fs) = r.answer (fs.node? q) := by
  rw [load_source, FileTree.readText, FileTree.read, h]
  dsimp only
  cases fs.node? q with
  | none => rfl
  | some n =>
    cases n with
    | directory => rfl
    | file bytes =>
      rw [answer]
      dsimp only
      cases ofUtf8 bytes <;> rfl

/-- **From a path that leads nowhere**, the built-in template is loaded, unless it is no path. -/
theorem load_of_not_locate {reason : FileReason}
    (h : fs.locate (d.path.join r.fileName) = .error reason) :
    r.load (d.source fs) =
      if reason = .zeroCharacter then .error (.file ⟨reason, d.path.join r.fileName⟩)
      else .ok r.builtin := by
  rw [load_source, FileTree.readText, FileTree.read, h]

theorem answer_eq_error_iff {content : Option Node} {e : Failure} :
    r.answer content = .error e ↔
      ∃ bytes fault, content = some (.file bytes) ∧ ofUtf8 bytes = .error fault ∧
        e = .undecodable fault := by
  cases content with
  | none => simp [answer]
  | some n =>
    cases n with
    | directory => simp [answer]
    | file bytes =>
      rw [answer]
      cases h : ofUtf8 bytes <;> simp [h, eq_comm]

/-- **Loading after edits.** A prompt is loaded from what the last edit of its file left, or what
stood there before any; from a path that leads nowhere, the built-in template is loaded. Loading
fails exactly when the file holds bytes that are no text, or a name on its path has a zero
character. In a directory that is there, the file is reached by its name, when that is one. -/
theorem load_after_edits (d : TemplateDirectory) (r : Request) (fs : FileTree)
    (edits : List FileTree.Edit) (hedits : ∀ e ∈ edits, e.place ≠ []) :
    let now := edits.foldl FileTree.edit fs
    let path := d.path.join r.fileName
    (∀ q, now.locate path = .ok q → r.load (d.source now) = r.answer (fs.edited edits q)) ∧
    (∀ reason, now.locate path = .error reason → reason ≠ .zeroCharacter →
      r.load (d.source now) = .ok r.builtin) ∧
    (∀ e, r.load (d.source now) = .error e ↔
      (∃ q bytes fault, now.locate path = .ok q ∧ fs.edited edits q = some (.file bytes) ∧
        ofUtf8 bytes = .error fault ∧ e = .undecodable fault) ∨
      (∃ n ∈ path.names, '\x00' ∈ n) ∧ e = .file ⟨.zeroCharacter, path⟩) ∧
    (∀ at_, now.locate d.path = .ok at_ → now.node? at_ = some .directory →
      r.fileName.IsFileName → '\x00' ∉ r.fileName → r.fileName.utf8.length ≤ FileTree.maxName →
        now.locate path = .ok (at_ ++ [r.fileName])) := by
  intro now path
  have hreached (q : Place) (hq : now.locate path = .ok q) :
      r.load (d.source now) = r.answer (fs.edited edits q) := by
    rw [load_of_locate hq, FileTree.node?_foldl_edit hedits]
  refine ⟨hreached, fun reason hreason hpath => ?_, fun e => ?_, fun at_ hat hdir hname hzero
    hlength => FileTree.locate_join_of_isFileName hname hat hdir hzero hlength⟩
  · rw [load_of_not_locate hreason, if_neg hpath]
  · rw [← FileTree.locate_eq_zeroCharacter_iff now]
    cases hlocate : now.locate path with
    | ok q =>
      rw [hreached q hlocate, answer_eq_error_iff]
      simp
    | error reason =>
      rw [load_of_not_locate hlocate]
      by_cases hpath : reason = .zeroCharacter
      · simp [hpath, eq_comm, path]
      · simp [hpath]

/-- **A template written anew**: the file of a kind of narration is written, a directory takes its
place, and it is written again. -/
theorem load_after_edits_dance :
    let at_ : Place := ["work", "prompts"]
    let file := at_ ++ ["action_dance.txt".toList]
    let edits : List FileTree.Edit := [⟨at_, some .directory⟩, ⟨file, some (.file [0xff])⟩,
      ⟨file, some .directory⟩, ⟨file, none⟩, ⟨file, some (.file (Text.utf8 "They dance.\r\n"))⟩]
    (Request.narration "dance").load
      (TemplateDirectory.source ⟨.ofText "prompts"⟩ (edits.foldl FileTree.edit .empty)) =
        .ok "They dance.\n" := by
  intro at_ file edits
  have hloaded := (load_after_edits ⟨.ofText "prompts"⟩ (.narration "dance") .empty edits
    (by decide)).1 file (by decide)
  exact hloaded.trans rfl

/-- **Bytes that are no text** in a file stop the loading. -/
theorem load_of_not_text :
    Request.chat.load (TemplateDirectory.source ⟨.ofText "prompts"⟩
      ((FileTree.empty.put ["work", "prompts"] .directory).put
        ["work", "prompts", "chat_system.txt"] (.file [0xff]))) =
      .error (.undecodable ⟨.utf8, 0xff, 0, 1, .invalidStart⟩) :=
  (load_of_locate (q := ["work", "prompts", "chat_system.txt"]) (by decide)).trans rfl

end Request

end Prompt

end Roleplay
