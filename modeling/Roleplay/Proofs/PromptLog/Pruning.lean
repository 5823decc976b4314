import Roleplay.Proofs.Files.Directory
import Roleplay.Proofs.PromptLog.Greatest

/-!
# Pruning after each writing

Prompts and responses are written in the background, so in any order, and after each of them the
directory is pruned as it stands then. Nothing comes of the order. Whatever stands in the directory
at some time, its ids hold the greatest of all ids so far and are among these; the greatest of the
ids there with the next one are then the greatest of all with the next one. So an id that was
pruned once is pruned again when a file of it arrives late, and an id that is among the greatest in
the end was so all the time, and has all of its files.

## Main definitions

* `LogFile`: a file of the log
* `PromptLog.write`, `PromptLog.write?`: a file written, and written without a failure
* `PromptLog.Holds`, `PromptLog.Pruned`: what a directory holds after some writings

## Main results

* `PromptLog.write_of_write?`: a writing without a failure
* `PromptLog.node?_of_write?`: what one writing leaves
* `PromptLog.Holds.pruned`: one writing leaves the files of the greatest ids, of those so far
* `PromptLog.newest_of_writes`: so does every run of writings, in any order
-/

namespace Roleplay

/-! ## Files of the log -/

/-- **A file of the log**, of a prompt or of a response, with its id and the moment of its
making. -/
inductive LogFile
  | prompt (id : Text) (m : Moment) (p : PromptEntry)
  | response (id : Text) (m : Moment) (r : ResponseEntry)

namespace LogFile

def id : LogFile → Text
  | prompt id _ _ => id
  | response id _ _ => id

/-- The tag whose directory a file is written to. -/
def tag : LogFile → Text
  | prompt _ _ p => p.tag
  | response _ _ r => r.tag

def name : LogFile → Text
  | prompt id _ _ => id ++ ".prompt.json".toList
  | response id _ _ => id ++ ".response.json".toList

def document : LogFile → Json
  | prompt id m p => PromptLog.promptJson id m p
  | response id m r => PromptLog.responseJson id m r

/-- What stands at the place of a file once it is written. -/
def node (f : LogFile) : Node :=
  .file (Json.write .indentedText f.document).utf8

end LogFile

namespace PromptLog

variable {l : PromptLog} {fs fs' made : FileTree} {at_ : Place} {f : LogFile}
  {files order : List LogFile} {n tag : Text} {p : Path}

theorem isDocument_iff : isDocument n = true ↔ ".json".toList <:+ n := by
  rw [isDocument, Text.startsWith, Option.isSome_iff_ne_none, ne_eq, Text.dropPrefix?_eq_none_iff,
    not_not, List.reverse_prefix]

theorem isDocument_name (f : LogFile) : isDocument f.name = true := by
  rw [isDocument_iff]
  cases f with
  | prompt id m p => exact ⟨id ++ ".prompt".toList, by rw [List.append_assoc]; rfl⟩
  | response id m r => exact ⟨id ++ ".response".toList, by rw [List.append_assoc]; rfl⟩

/-- A document without a slash is a file of the directory. -/
theorem isFileName_of_isDocument (h : isDocument n = true) (hslash : '/' ∉ n) : n.IsFileName := by
  have hlength := (isDocument_iff.mp h).length_le
  refine ⟨?_, hslash, ?_, ?_⟩ <;>
  · rintro rfl
    simp at hlength

theorem slash_notMem_name (h : '/' ∉ f.id) : '/' ∉ f.name := by
  cases f with
  | prompt id m p => exact List.not_mem_append h (by decide)
  | response id m r => exact List.not_mem_append h (by decide)

/-! ## Writing a file -/

/-- The documents that stand at a place. -/
def documents (fs : FileTree) (at_ : Place) : List Text :=
  (fs.below at_).filter isDocument

/-- The documents whose ids are none of the greatest. -/
def stale (l : PromptLog) (names : List Text) : List Text :=
  names.filter fun n => idOfFile n ∉ greatest l.limit (ids names)

theorem filter_notMem_kept (l : PromptLog) (names : List Text) :
    (names.filter fun n => idOfFile n ∉ l.kept names) = l.stale names := by
  simp only [stale, mem_kept_iff]

/-- **A file written** to the directory of its tag, which is pruned then. -/
def write (l : PromptLog) (fs : FileTree) (f : LogFile) : FileTree :=
  l.store fs f.tag f.name f.document

theorem writePrompt_eq (l : PromptLog) (fs : FileTree) (m : Moment) (p : PromptEntry) :
    l.writePrompt fs m p =
      ({ l with count := l.count + 1 }, l.write fs (.prompt (l.idOf m) m p), l.idOf m) :=
  rfl

theorem writeResponse_eq (l : PromptLog) (fs : FileTree) (m : Moment) (id : Text)
    (r : ResponseEntry) : l.writeResponse fs m id r = l.write fs (.response id m r) :=
  rfl

/-- **A file written without a failure**: the directory is made, the file is written, and all files
are removed whose ids are none of the greatest. -/
def write? (l : PromptLog) (fs : FileTree) (f : LogFile) : Except FileFault FileTree := do
  let directory := l.directory.join f.tag
  let fs ← fs.makeDirectories directory
  let fs ← fs.writeText (directory.join f.name) (Json.write .indentedText f.document)
  (l.stale ((fs.list directory).filter isDocument)).foldlM
    (fun fs n => fs.remove (directory.join n)) fs

/-- The steps of a writing without a failure. -/
theorem exists_of_write? (h : l.write? fs f = .ok fs') :
    ∃ made written, fs.makeDirectories (l.directory.join f.tag) = .ok made ∧
      made.writeText ((l.directory.join f.tag).join f.name)
        (Json.write .indentedText f.document) = .ok written ∧
      (l.stale ((written.list (l.directory.join f.tag)).filter isDocument)).foldlM
        (fun fs n => fs.remove ((l.directory.join f.tag).join n)) written = .ok fs' := by
  obtain ⟨made, hmade, h⟩ := Except.exists_of_bind_eq_ok h
  obtain ⟨written, hwrite, h⟩ := Except.exists_of_bind_eq_ok h
  exact ⟨made, written, hmade, hwrite, h⟩

theorem removeAll_of_foldlM {directory : Path} {names : List Text}
    (h : names.foldlM (fun fs n => fs.remove (directory.join n)) fs = .ok fs') :
    removeAll directory names fs = fs' := by
  induction names generalizing fs with
  | nil =>
    cases h
    rfl
  | cons n names ih =>
    obtain ⟨removed, hremove, h⟩ := Except.exists_of_foldlM_cons h
    rw [removeAll, hremove]
    exact ih h

/-- **A writing without a failure** is the one that is made. -/
theorem write_of_write? (h : l.write? fs f = .ok fs') : l.write fs f = fs' := by
  obtain ⟨made, written, hmade, hwrite, hremove⟩ := exists_of_write? h
  rw [write, store]
  simp only [hmade, hwrite, prune, filter_notMem_kept]
  exact removeAll_of_foldlM hremove

theorem foldl_write (h : order.foldlM l.write? fs = .ok fs') : order.foldl l.write fs = fs' :=
  Except.foldl_of_foldlM (fun _ _ _ => write_of_write?) h

/-! ## What one writing leaves -/

theorem mem_documents_iff :
    n ∈ documents fs at_ ↔ isDocument n = true ∧ fs.node? (at_ ++ [n]) ≠ none := by
  rw [documents, List.mem_filter, FileTree.mem_below_iff, and_comm]

/-- **Pruning** leaves the documents of the greatest ids, and everything else. -/
theorem node?_of_prune (hlocate : fs.locate p = .ok at_) (hslash : ∀ n ∈ documents fs at_, '/' ∉ n)
    (h : (l.stale (documents fs at_)).foldlM (fun fs n => fs.remove (p.join n)) fs = .ok fs') :
    fs.KeepsDirectories fs' ∧
    (∀ n, isDocument n = true → fs'.node? (at_ ++ [n]) =
      if idOfFile n ∈ greatest l.limit (ids (documents fs at_)) then fs.node? (at_ ++ [n])
      else none) ∧
    ∀ q, (∀ n, isDocument n = true → q ≠ at_ ++ [n]) → fs'.node? q = fs.node? q := by
  have hstale {n : Text} : n ∈ l.stale (documents fs at_) ↔
      n ∈ documents fs at_ ∧ idOfFile n ∉ greatest l.limit (ids (documents fs at_)) := by
    rw [stale, List.mem_filter, decide_eq_true_eq]
  obtain ⟨hkeeps, hnode⟩ := FileTree.exists_of_foldlM_remove hlocate (fun n hn =>
    have hn := (hstale.mp hn).1
    isFileName_of_isDocument (mem_documents_iff.mp hn).1 (hslash n hn)) h
  refine ⟨hkeeps, fun n hn => ?_, fun q hq => ?_⟩
  · have hremoved : (∃ m ∈ l.stale (documents fs at_), at_ ++ [n] = at_ ++ [m]) ↔
        n ∈ l.stale (documents fs at_) := by simp
    rw [hnode]
    by_cases hgreatest : idOfFile n ∈ greatest l.limit (ids (documents fs at_))
    · rw [if_pos hgreatest, if_neg fun hn => (hstale.mp (hremoved.mp hn)).2 hgreatest]
    · rw [if_neg hgreatest]
      by_cases hthere : fs.node? (at_ ++ [n]) = none
      · rw [hthere, ite_self]
      · have hn := hstale.mpr ⟨mem_documents_iff.mpr ⟨hn, hthere⟩, hgreatest⟩
        rw [if_pos (hremoved.mpr hn)]
  · rw [hnode, if_neg]
    rintro ⟨n, hn, rfl⟩
    exact hq n (mem_documents_iff.mp (hstale.mp hn).1).1 rfl

/-- **What one writing leaves** in the directory, and elsewhere: with the id of the file there, the
documents of the greatest ids stay. -/
theorem node?_of_write? (hlocate : fs.locate (l.directory.join f.tag) = .ok at_)
    (hdir : fs.node? at_ = some .directory) (hid : '/' ∉ f.id)
    (hslash : ∀ n ∈ documents fs at_, '/' ∉ n) (h : l.write? fs f = .ok fs') :
    fs.KeepsDirectories fs' ∧
    (∀ n, isDocument n = true → fs'.node? (at_ ++ [n]) =
      if idOfFile n ∈ greatest l.limit (insert (idOfFile f.name) (ids (documents fs at_))) then
        if n = f.name then some f.node else fs.node? (at_ ++ [n])
      else none) ∧
    ∀ q, (∀ n, isDocument n = true → q ≠ at_ ++ [n]) → fs'.node? q = fs.node? q := by
  obtain ⟨made, written, hmade, hwrite, hremove⟩ := exists_of_write? h
  have hthere := FileTree.isDirectory_iff.mpr ⟨at_, hlocate, hdir⟩
  cases (FileTree.makeDirectories_eq_self hthere).symm.trans hmade
  have hname := slash_notMem_name hid
  -- the file is written in the directory
  obtain ⟨place, hplace, hnode, rfl⟩ := FileTree.exists_of_write_eq_ok hwrite
  obtain ⟨at', hat', -, rfl⟩ := FileTree.exists_of_locate_join
    (isFileName_of_isDocument (isDocument_name f) hname) hplace
  cases hlocate.symm.trans hat'
  rw [← LogFile.node] at hremove
  have hkeeps := FileTree.keepsDirectories_put hnode f.node
  have hput := FileTree.node?_put fs (FileTree.ne_root hnode) f.node
  have hdocuments {n : Text} : n ∈ documents (fs.put (at_ ++ [f.name]) f.node) at_ ↔
      n = f.name ∨ n ∈ documents fs at_ := by
    rw [mem_documents_iff, mem_documents_iff, hput]
    by_cases hn : n = f.name
    · simp [hn, isDocument_name]
    · simp [hn]
  have hids : ids (documents (fs.put (at_ ++ [f.name]) f.node) at_) =
      insert (idOfFile f.name) (ids (documents fs at_)) := by
    ext i
    simp only [Finset.mem_insert, mem_ids_iff, hdocuments, or_and_right, exists_or,
      exists_eq_left, eq_comm]
  -- then the directory is pruned
  rw [FileTree.list_eq_below (hkeeps.locate hlocate) (hkeeps.node? _ hdir), ← documents] at hremove
  obtain ⟨hkeeps', hdocument, hframe⟩ := node?_of_prune (hkeeps.locate hlocate) (fun n hn => by
    rcases hdocuments.mp hn with rfl | hn
    · exact hname
    · exact hslash n hn) hremove
  refine ⟨hkeeps.trans hkeeps', fun n hn => ?_, fun q hq => ?_⟩
  · rw [hdocument n hn, hids, hput]
    simp
  · rw [hframe q hq, hput, if_neg (hq f.name (isDocument_name f))]

/-! ## Runs of writings -/

/-- What was written last under a name. -/
def lastWritten (files : List LogFile) (n : Text) : Option Node :=
  (files.reverse.find? (·.name = n)).map LogFile.node

/-- What belongs under a name: what was written last, or else what stood there before. -/
def latest (made : FileTree) (at_ : Place) (files : List LogFile) (n : Text) : Option Node :=
  (lastWritten files n).or (made.node? (at_ ++ [n]))

/-- The documents that stood there before, and those that were written. -/
def known (made : FileTree) (at_ : Place) (files : List LogFile) : List Text :=
  documents made at_ ++ files.map LogFile.name

theorem lastWritten_concat (files : List LogFile) (f : LogFile) (n : Text) :
    lastWritten (files ++ [f]) n = if n = f.name then some f.node else lastWritten files n := by
  rw [lastWritten, List.reverse_concat, List.find?_cons]
  by_cases hn : n = f.name
  · simp [hn]
  · simp [hn, Ne.symm hn, lastWritten]

theorem lastWritten_eq_none_iff : lastWritten files n = none ↔ n ∉ files.map LogFile.name := by
  simp [lastWritten]

/-- Something belongs under the names that are known. -/
theorem latest_eq_none_iff (hn : isDocument n = true) :
    latest made at_ files n = none ↔ n ∉ known made at_ files := by
  rw [latest, Option.or_eq_none_iff, lastWritten_eq_none_iff, known, List.mem_append,
    mem_documents_iff, not_or]
  simp [hn, and_comm]

theorem mem_known_concat_iff :
    n ∈ known made at_ (files ++ [f]) ↔ n ∈ known made at_ files ∨ n = f.name := by
  simp [known, or_assoc]

theorem slash_notMem_known_concat (hslash : ∀ n ∈ known made at_ files, '/' ∉ n)
    (hid : '/' ∉ f.id) : ∀ n ∈ known made at_ (files ++ [f]), '/' ∉ n := by
  intro n hn
  rcases mem_known_concat_iff.mp hn with hn | rfl
  · exact hslash n hn
  · exact slash_notMem_name hid

theorem isDocument_of_mem_known (h : n ∈ known made at_ files) : isDocument n = true := by
  rcases List.mem_append.mp h with hn | hn
  · exact (mem_documents_iff.mp hn).1
  · obtain ⟨f, -, rfl⟩ := List.mem_map.mp hn
    exact isDocument_name f

theorem ids_known_concat (made : FileTree) (at_ : Place) (files : List LogFile) (f : LogFile) :
    ids (known made at_ (files ++ [f])) =
      insert (idOfFile f.name) (ids (known made at_ files)) := by
  ext i
  simp only [mem_ids_iff, mem_known_concat_iff, Finset.mem_insert, or_and_right, exists_or,
    exists_eq_left, or_comm, eq_comm]

/-- **What a directory holds at any time**: what belongs under a name, unless the id is none of the
greatest. -/
structure Holds (l : PromptLog) (made : FileTree) (at_ : Place) (files : List LogFile)
    (fs : FileTree) : Prop where
  keeps : made.KeepsDirectories fs
  document : ∀ n, isDocument n = true → fs.node? (at_ ++ [n]) = latest made at_ files n ∨
    fs.node? (at_ ++ [n]) = none ∧ idOfFile n ∉ greatest l.limit (ids (known made at_ files))
  elsewhere : ∀ q, (∀ n, isDocument n = true → q ≠ at_ ++ [n]) → fs.node? q = made.node? q

/-- **What a directory holds after a writing**: what belongs under the names whose ids are the
greatest, and no other document. -/
structure Pruned (l : PromptLog) (made : FileTree) (at_ : Place) (files : List LogFile)
    (fs : FileTree) : Prop extends l.Holds made at_ files fs where
  node?_eq_none : ∀ n, isDocument n = true →
    idOfFile n ∉ greatest l.limit (ids (known made at_ files)) → fs.node? (at_ ++ [n]) = none

theorem holds_nil (l : PromptLog) (made : FileTree) (at_ : Place) : l.Holds made at_ [] made where
  keeps := .refl made
  document _ _ := .inl rfl
  elsewhere _ _ := rfl

namespace Holds

/-- What is there is what belongs there. -/
theorem node?_eq (h : l.Holds made at_ files fs) (hn : n ∈ documents fs at_) :
    fs.node? (at_ ++ [n]) = latest made at_ files n := by
  obtain ⟨hdocument, hthere⟩ := mem_documents_iff.mp hn
  exact (h.document n hdocument).resolve_right fun hnone => hthere hnone.1

/-- No other document is there than those that are known. -/
theorem mem_known (h : l.Holds made at_ files fs) (hn : n ∈ documents fs at_) :
    n ∈ known made at_ files := by
  obtain ⟨hdocument, hthere⟩ := mem_documents_iff.mp hn
  rw [h.node?_eq hn] at hthere
  exact not_not.mp (mt (latest_eq_none_iff hdocument).mpr hthere)

/-- Those with the greatest ids are there. -/
theorem mem_documents (h : l.Holds made at_ files fs) (hn : n ∈ known made at_ files)
    (hgreatest : idOfFile n ∈ greatest l.limit (ids (known made at_ files))) :
    n ∈ documents fs at_ := by
  have hdocument := isDocument_of_mem_known hn
  have hlatest := (h.document n hdocument).resolve_right fun hnone => hnone.2 hgreatest
  refine mem_documents_iff.mpr ⟨hdocument, ?_⟩
  rw [hlatest]
  exact mt (latest_eq_none_iff hdocument).mp (not_not.mpr hn)

/-- **With one id more**, the greatest of those that are there are the greatest of all that are
known. -/
theorem greatest_insert (h : l.Holds made at_ files fs) (i : Text) :
    greatest l.limit (insert i (ids (documents fs at_))) =
      greatest l.limit (insert i (ids (known made at_ files))) := by
  refine greatest_insert_of_subset (fun j hj => ?_) (fun j hj => ?_) i
  · obtain ⟨n, hn, rfl⟩ := mem_ids_iff.mp (greatest_subset _ _ hj)
    exact mem_ids_iff.mpr ⟨n, h.mem_documents hn hj, rfl⟩
  · obtain ⟨n, hn, rfl⟩ := mem_ids_iff.mp hj
    exact mem_ids_iff.mpr ⟨n, h.mem_known hn, rfl⟩

/-- **One writing** leaves what belongs there, of all that is known with the file. -/
theorem pruned (h : l.Holds made at_ files fs)
    (hlocate : made.locate (l.directory.join f.tag) = .ok at_)
    (hdir : made.node? at_ = some .directory) (hid : '/' ∉ f.id)
    (hslash : ∀ n ∈ known made at_ files, '/' ∉ n) (hwrite : l.write? fs f = .ok fs') :
    l.Pruned made at_ (files ++ [f]) fs' := by
  obtain ⟨hkeeps, hnode, hframe⟩ := node?_of_write? (h.keeps.locate hlocate)
    (h.keeps.node? _ hdir) hid (fun n hn => hslash n (h.mem_known hn)) hwrite
  -- pruning by the ids that are there is pruning by all that are known
  rw [h.greatest_insert] at hnode
  refine ⟨⟨h.keeps.trans hkeeps, fun n hn => ?_, fun q hq => ?_⟩, fun n hn hout => ?_⟩
  · rw [ids_known_concat, hnode n hn, latest, lastWritten_concat]
    by_cases hgreatest :
        idOfFile n ∈ greatest l.limit (insert (idOfFile f.name) (ids (known made at_ files)))
    · rw [if_pos hgreatest]
      refine .inl ?_
      by_cases hname : n = f.name
      · rw [if_pos hname, if_pos hname, Option.some_or]
      · rw [if_neg hname, if_neg hname]
        rcases h.document n hn with hlatest | ⟨hnone, hout⟩
        · exact hlatest
        · -- an id that was left out before is not among the greatest now, so this one is new
          have hunknown : n ∉ known made at_ files := fun hknown =>
            hout (mem_greatest_of_subset hgreatest (Finset.subset_insert _ _)
              (mem_ids_iff.mpr ⟨n, hknown, rfl⟩))
          exact hnone.trans ((latest_eq_none_iff hn).mpr hunknown).symm
    · rw [if_neg hgreatest]
      exact .inr ⟨rfl, hgreatest⟩
  · rw [hframe q hq, h.elsewhere q hq]
  · rw [ids_known_concat] at hout
    rw [hnode n hn, if_neg hout]

end Holds

/-- **A run of writings** leaves what belongs there, of all that is known in the end. -/
theorem Pruned.of_foldlM (h : l.Pruned made at_ files fs)
    (hlocate : made.locate (l.directory.join tag) = .ok at_)
    (hdir : made.node? at_ = some .directory) (htag : ∀ f ∈ order, f.tag = tag)
    (hid : ∀ f ∈ order, '/' ∉ f.id) (hslash : ∀ n ∈ known made at_ files, '/' ∉ n)
    (hwrites : order.foldlM l.write? fs = .ok fs') : l.Pruned made at_ (files ++ order) fs' := by
  -- what was written so far grows as what is left is written
  induction order generalizing files fs with
  | nil =>
    cases hwrites
    rw [List.append_nil]
    exact h
  | cons f order ih =>
    obtain ⟨htag_f, htag⟩ := List.forall_mem_cons.mp htag
    obtain ⟨hid_f, hid⟩ := List.forall_mem_cons.mp hid
    obtain ⟨next, hwrite, hwrites⟩ := Except.exists_of_foldlM_cons hwrites
    have hnext := h.pruned (f := f) (htag_f ▸ hlocate) hdir hid_f hslash hwrite
    rw [List.append_cons]
    exact ih hnext htag hid (slash_notMem_known_concat hslash hid_f) hwrites

/-- The directory may as well have been made before. -/
theorem write?_of_makeDirectories
    (hmade : fs.makeDirectories (l.directory.join f.tag) = .ok made) :
    l.write? made f = l.write? fs f := by
  rw [write?, write?, hmade,
    FileTree.makeDirectories_eq_self (FileTree.makeDirectories_spec hmade).2]

/-- **Any writings at all** prune the directory: the first one by what stood there, and the others
keep it so. -/
theorem pruned_of_writes (horder : order ≠ []) (htag : ∀ f ∈ order, f.tag = tag)
    (hid : ∀ f ∈ order, '/' ∉ f.id)
    (hmade : fs.makeDirectories (l.directory.join tag) = .ok made)
    (hlocate : made.locate (l.directory.join tag) = .ok at_)
    (hslash : ∀ n ∈ documents made at_, '/' ∉ n)
    (hwrites : order.foldlM l.write? fs = .ok fs') : l.Pruned made at_ order fs' := by
  have hdir : made.node? at_ = some .directory := by
    obtain ⟨at', hat', hdir⟩ :=
      FileTree.isDirectory_iff.mp (FileTree.makeDirectories_spec hmade).2
    cases hlocate.symm.trans hat'
    exact hdir
  cases order with
  | nil => exact absurd rfl horder
  | cons f rest =>
    obtain ⟨rfl, htag⟩ := List.forall_mem_cons.mp htag
    obtain ⟨hid_f, hid⟩ := List.forall_mem_cons.mp hid
    obtain ⟨next, hwrite, hwrites⟩ := Except.exists_of_foldlM_cons hwrites
    rw [← write?_of_makeDirectories hmade] at hwrite
    -- before the first writing all that is known is there
    have hslash' : ∀ n ∈ known made at_ [], '/' ∉ n := by simpa [known] using hslash
    have hfirst := (holds_nil l made at_).pruned hlocate hdir hid_f hslash' hwrite
    exact hfirst.of_foldlM hlocate hdir htag hid (slash_notMem_known_concat hslash' hid_f) hwrites

/-- What is known does not depend on the order. -/
theorem mem_known_of_perm (h : order.Perm files) :
    n ∈ known made at_ order ↔ n ∈ known made at_ files := by
  rw [known, known, List.mem_append, List.mem_append, (h.map LogFile.name).mem_iff]

/-- **The newest are kept, whatever the order.** When files of one tag are written in some order,
each writing pruning the directory and none failing, then the documents in the end are those, of the
ones that stood there and the ones that were written, whose ids are among the greatest of all of
these; each is as it was written last, or as it was. No other file changes, and the directories that
are made stand where nothing stood. -/
theorem newest_of_writes (hfiles : files ≠ []) (horder : order.Perm files)
    (htag : ∀ f ∈ files, f.tag = tag) (hid : ∀ f ∈ files, '/' ∉ f.id)
    (hmade : fs.makeDirectories (l.directory.join tag) = .ok made)
    (hlocate : made.locate (l.directory.join tag) = .ok at_)
    (hslash : ∀ n ∈ documents made at_, '/' ∉ n)
    (hwrites : order.foldlM l.write? fs = .ok fs') :
    order.foldl l.write fs = fs' ∧
    (∀ n, n ∈ documents fs' at_ ↔ n ∈ known made at_ files ∧
      idOfFile n ∈ greatest l.limit (ids (known made at_ files))) ∧
    (∀ n ∈ documents fs' at_, fs'.node? (at_ ++ [n]) = latest made at_ order n) ∧
    (∀ q bytes, (∀ n, isDocument n = true → q ≠ at_ ++ [n]) →
      (fs'.node? q = some (.file bytes) ↔ fs.node? q = some (.file bytes))) ∧
    fs.AddsDirectories made := by
  have hadds := (FileTree.makeDirectories_spec hmade).1
  have hpruned : l.Pruned made at_ order fs' :=
    pruned_of_writes (fun hnil => hfiles (hnil ▸ horder).nil_eq.symm)
      (fun f hf => htag f (horder.mem_iff.mp hf)) (fun f hf => hid f (horder.mem_iff.mp hf))
      hmade hlocate hslash hwrites
  have hids : ids (known made at_ order) = ids (known made at_ files) := by
    ext i
    simp only [mem_ids_iff, mem_known_of_perm horder]
  refine ⟨foldl_write hwrites, fun n => ⟨fun hn => ⟨?_, ?_⟩, fun ⟨hn, hgreatest⟩ => ?_⟩,
    fun n hn => hpruned.node?_eq hn, fun q bytes hq => ?_, hadds⟩
  · exact (mem_known_of_perm horder).mp (hpruned.mem_known hn)
  · obtain ⟨hdocument, hthere⟩ := mem_documents_iff.mp hn
    rw [← hids]
    exact not_not.mp fun hout => hthere (hpruned.node?_eq_none n hdocument hout)
  · rw [← hids] at hgreatest
    exact hpruned.mem_documents ((mem_known_of_perm horder).mpr hn) hgreatest
  · rw [hpruned.elsewhere q hq]
    exact hadds.file_iff

/-- **A late response**: two of three ids are kept, and the response to the oldest prompt arrives
when that is gone. It leaves nothing behind, and the response to the next one stays. -/
theorem newest_of_writes_late :
    let l : PromptLog := { directory := .here, keep := 2 }
    let prompt (id : Text) : LogFile := .prompt id default ⟨[], "chat", [], []⟩
    let response (id : Text) : LogFile := .response id default ⟨"chat", [], [], .null⟩
    let at_ : Place := ["work", "chat"]
    let fs := (FileTree.empty.put at_ .directory).put (at_ ++ ["2.prompt.json".toList]) (.file [])
    let files := [prompt "1", prompt "3", response "1", response "2"]
    ∃ fs', files.foldlM l.write? fs = .ok fs' ∧
      ∀ n, n ∈ documents fs' at_ ↔
        n ∈ ["2.prompt.json".toList, "3.prompt.json", "2.response.json"] := by
  intro l prompt response at_ fs files
  have hok : (files.foldlM l.write? fs).isOk = true := by decide +kernel
  cases hwrites : files.foldlM l.write? fs with
  | error fault =>
    rw [hwrites] at hok
    cases hok
  | ok fs' =>
    have hmade : fs.makeDirectories (l.directory.join "chat") = .ok fs :=
      FileTree.makeDirectories_eq_self (by decide)
    have hlocate : fs.locate (l.directory.join "chat") = .ok at_ := by decide
    have hnewest := (newest_of_writes (by decide) (.refl files) (by decide) (by decide) hmade
      hlocate (by decide) hwrites).2.1
    have hstay : ((known fs at_ files).filter fun n =>
        idOfFile n ∈ greatest l.limit (ids (known fs at_ files))) =
          ["2.prompt.json".toList, "3.prompt.json", "2.response.json"] := by
      decide +kernel
    refine ⟨fs', rfl, fun n => ?_⟩
    rw [hnewest, ← hstay, List.mem_filter, decide_eq_true_eq]

end PromptLog

end Roleplay
