import Roleplay.Files.Tree
import Roleplay.Proofs.Except
import Roleplay.Proofs.Text.Encoding

/-!
# Reading what was written

A file that was written is read back by the same path. A node is put at the place of the path, and
the path could lead elsewhere afterwards only if a directory on its way had changed. A file is never
put where a directory stands, so every path that led to a place before leads to the same place
after, and directories stay directories.

## Main definitions

* `FileTree.KeepsDirectories`: a tree has the directories of another one

## Main results

* `FileTree.node?_put`: what stands at a place after a node is put
* `FileTree.KeepsDirectories.locate`: a path leads where it led, in a tree with the same directories
* `FileTree.readText_writeText`: a text that was written is read back
* `FileTree.makeDirectories_eq_self`: a directory that is there is not made again
-/

namespace Roleplay

open Text

namespace FileTree

variable {fs fs' : FileTree} {p : Path} {q : Place} {bytes : List UInt8}

/-! ## Nodes -/

theorem lookup_cons (r : Place) (m : Node) (ns : List (Place × Node)) (q : Place) :
    List.lookup q ((r, m) :: ns) = if q = r then some m else ns.lookup q := by
  rw [List.lookup_cons]
  by_cases h : q = r
  · rw [if_pos h, h, beq_self_eq_true]
  · rw [if_neg h, beq_false_of_ne h]

theorem lookup_putNode (q : Place) (n : Node) (ns : List (Place × Node)) (q' : Place) :
    (putNode q n ns).lookup q' = if q' = q then some n else ns.lookup q' := by
  induction ns with
  | nil => rw [putNode, lookup_cons]
  | cons m ns ih =>
    obtain ⟨r, m⟩ := m
    rw [putNode]
    by_cases hr : r = q
    · -- the node is put in the stead of another one
      rw [if_pos hr, lookup_cons, lookup_cons, hr]
      split <;> rfl
    · rw [if_neg hr, lookup_cons, lookup_cons, ih]
      by_cases h : q' = r
      · rw [if_pos h, if_pos h, if_neg (h ▸ hr)]
      · rw [if_neg h, if_neg h]

/-- **What stands at a place** after a node is put at one that is not the root. -/
theorem node?_put (fs : FileTree) (hq : q ≠ []) (n : Node) (q' : Place) :
    (fs.put q n).node? q' = if q' = q then some n else fs.node? q' := by
  rw [node?, node?, put, lookup_putNode]
  by_cases hroot : q' = []
  · rw [if_pos hroot, if_pos hroot, if_neg fun h => hq (h.symm.trans hroot)]
  · rw [if_neg hroot, if_neg hroot]

theorem putNode_putNode (q : Place) (n : Node) (ns : List (Place × Node)) :
    putNode q n (putNode q n ns) = putNode q n ns := by
  induction ns with
  | nil => rw [putNode, putNode, if_pos rfl]
  | cons m ns ih =>
    obtain ⟨r, m⟩ := m
    rw [putNode]
    by_cases hr : r = q
    · rw [if_pos hr, putNode, if_pos rfl]
    · rw [if_neg hr, putNode, if_neg hr, ih]

theorem put_put (fs : FileTree) (q : Place) (n : Node) : (fs.put q n).put q n = fs.put q n := by
  rw [put, put, putNode_putNode]

/-- The root is a directory. -/
theorem ne_root (h : fs.node? q ≠ some .directory) : q ≠ [] := by
  rintro rfl
  exact h rfl

/-! ## Walks -/

/-- **A tree with the directories of another one** and its working directory. -/
structure KeepsDirectories (fs fs' : FileTree) : Prop where
  working : fs'.working = fs.working
  node? : ∀ q, fs.node? q = some .directory → fs'.node? q = some .directory

theorem KeepsDirectories.refl (fs : FileTree) : fs.KeepsDirectories fs :=
  ⟨rfl, fun _ h => h⟩

theorem KeepsDirectories.trans {fs'' : FileTree} (h : fs.KeepsDirectories fs')
    (h' : fs'.KeepsDirectories fs'') : fs.KeepsDirectories fs'' :=
  ⟨h'.working.trans h.working, fun q hq => h'.node? q (h.node? q hq)⟩

/-- A node that is put where no directory stands leaves all directories. -/
theorem keepsDirectories_put (h : fs.node? q ≠ some .directory) (n : Node) :
    fs.KeepsDirectories (fs.put q n) where
  working := rfl
  node? q' hq' := by
    have hne : q' ≠ q := by
      rintro rfl
      exact h hq'
    rw [node?_put fs (ne_root h), if_neg hne]
    exact hq'

/-- A step starts at a directory. -/
theorem isDirectory_of_step {name : Text} {at_ reached : Place}
    (h : fs.step at_ name = .ok reached) : fs.node? at_ = some .directory := by
  rw [step.eq_def] at h
  split at h
  · cases h
  · cases h
  · next hdir => exact hdir

/-- **A step leads where it led**, as long as the directory is there that it starts at. -/
theorem KeepsDirectories.step (h : fs.KeepsDirectories fs') {name : Text} {at_ reached : Place}
    (hstep : fs.step at_ name = .ok reached) : fs'.step at_ name = .ok reached := by
  have hdir := isDirectory_of_step hstep
  rw [FileTree.step, hdir] at hstep
  rw [FileTree.step, h.node? at_ hdir]
  exact hstep

theorem KeepsDirectories.foldlM_step (h : fs.KeepsDirectories fs') {names : List Text}
    {start reached : Place} (hwalk : names.foldlM fs.step start = .ok reached) :
    names.foldlM fs'.step start = .ok reached := by
  induction names generalizing start with
  | nil => exact hwalk
  | cons name names ih =>
    obtain ⟨next, hstep, hwalk⟩ := Except.exists_of_foldlM_cons hwalk
    rw [List.foldlM_cons, h.step hstep]
    exact ih hwalk

/-- **A path leads where it led.** -/
theorem KeepsDirectories.locate (h : fs.KeepsDirectories fs') (hlocate : fs.locate p = .ok q) :
    fs'.locate p = .ok q := by
  rw [FileTree.locate] at hlocate ⊢
  split at hlocate
  · cases hlocate
  · next hzero =>
    rw [if_neg hzero, h.working]
    exact h.foldlM_step hlocate

theorem isDirectory_iff :
    fs.isDirectory p = true ↔ ∃ q, fs.locate p = .ok q ∧ fs.node? q = some .directory := by
  rw [isDirectory]
  cases fs.locate p <;> simp

/-- A directory stays one. -/
theorem KeepsDirectories.isDirectory (h : fs.KeepsDirectories fs')
    (hdir : fs.isDirectory p = true) : fs'.isDirectory p = true := by
  obtain ⟨q, hlocate, hnode⟩ := isDirectory_iff.mp hdir
  exact isDirectory_iff.mpr ⟨q, h.locate hlocate, h.node? q hnode⟩

/-- **The last step of a walk** starts at the directory that the others lead to. -/
theorem exists_of_locate_concat {slashes : Nat} {names : List Text} {name : Text}
    (hlocate : fs.locate ⟨slashes, names ++ [name]⟩ = .ok q) :
    ∃ at_, fs.locate ⟨slashes, names⟩ = .ok at_ ∧ fs.step at_ name = .ok q := by
  rw [locate] at hlocate
  split at hlocate
  · cases hlocate
  · next hzero =>
    simp only [List.any_append, Bool.or_eq_true, not_or] at hzero
    rw [List.foldlM_append] at hlocate
    rw [locate, if_neg hzero.1]
    generalize names.foldlM fs.step (if slashes = 0 then fs.working else []) = walked
      at hlocate ⊢
    cases walked with
    | error r => cases hlocate
    | ok at_ =>
      have hstep : (fs.step at_ name >>= pure) = .ok q := hlocate
      rw [bind_pure] at hstep
      exact ⟨at_, rfl, hstep⟩

/-- **What is below a path** is in a directory. -/
theorem isDirectory_of_locate {slashes : Nat} {names : List Text} {name : Text}
    (hlocate : fs.locate ⟨slashes, names ++ [name]⟩ = .ok q) :
    fs.isDirectory ⟨slashes, names⟩ = true := by
  obtain ⟨at_, hat, hstep⟩ := exists_of_locate_concat hlocate
  exact isDirectory_iff.mpr ⟨at_, hat, isDirectory_of_step hstep⟩

/-! ## Files and directories -/

/-- **A file that is written** stands at the place of its path. -/
theorem exists_of_write_eq_ok (h : fs.write p bytes = .ok fs') :
    ∃ q, fs.locate p = .ok q ∧ fs.node? q ≠ some .directory ∧ fs' = fs.put q (.file bytes) := by
  rw [write] at h
  split at h
  · cases h
  · next q hlocate =>
    split at h
    · cases h
    · next hnode =>
      cases h
      exact ⟨q, hlocate, hnode, rfl⟩

/-- **A text that was written is read back**, and writing it again changes nothing. -/
theorem readText_writeText {t : Text} (h : fs.writeText p t = .ok fs') (hends : '\r' ∉ t) :
    fs'.readText p = .ok t ∧ fs'.writeText p t = .ok fs' := by
  obtain ⟨q, hlocate, hnode, rfl⟩ := exists_of_write_eq_ok h
  have hput := node?_put fs (ne_root hnode) (.file t.utf8) q
  rw [if_pos rfl] at hput
  have hagain : (fs.put q (.file t.utf8)).locate p = .ok q :=
    (keepsDirectories_put hnode _).locate hlocate
  constructor
  · rw [readText, read, hagain]
    simp only [hput, ofUtf8_utf8, readLineEnds_eq_self hends]
  · rw [writeText, write, hagain]
    simp only [hput, put_put]

/-- **A directory that is there** is not made again. -/
theorem makeDirectories_eq_self (h : fs.isDirectory p = true) : fs.makeDirectories p = .ok fs := by
  have hmake : fs.makeDirectory p = .error .alreadyThere := by
    obtain ⟨q, hlocate, hnode⟩ := isDirectory_iff.mp h
    rw [makeDirectory, hlocate]
    simp only [hnode]
  rw [makeDirectories, hmake]
  exact if_pos h

end FileTree

end Roleplay
