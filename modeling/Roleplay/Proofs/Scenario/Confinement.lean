import Roleplay.Proofs.Scenario.Files
import Roleplay.Proofs.Scenario.Names

/-!
# The reach of an id

An operation on a scenario changes or reads one file at most, the one that the path of its id leads
to. It is directly in the directory when the steps before the last lead there, as they do for every
id without a slash. Other ids lead out of the directory: `../secret` is the id of a text file beside
it.

## Main definitions

* `FileTree.SameDirectories`: two trees with the same directories
* `ScenarioDirectory.IsInside d fs q`: `q` is a place directly in the directory
* `ScenarioDirectory.Confined d fs id content`: the operations on `id` stay in the directory

## Main results

* `ScenarioDirectory.isInside_iff`: when the file of an id is directly in the directory
* `ScenarioDirectory.reach`: what the operations change and read
* `ScenarioDirectory.not_confined`: an id that leaves the directory
-/

namespace Roleplay

open Text

/-! ## Trees with the same directories -/

/-- **Two trees with the same directories** and the same working directory. Their files may
differ. -/
structure FileTree.SameDirectories (fs fs' : FileTree) : Prop where
  keeps : fs.KeepsDirectories fs'
  kept : fs'.KeepsDirectories fs

namespace ScenarioDirectory

variable {d : ScenarioDirectory} {fs fs' : FileTree} {id content : Text} {q : Place}

/-! ## Places in the directory -/

/-- **A place directly in the directory.** -/
def IsInside (d : ScenarioDirectory) (fs : FileTree) (q : Place) : Prop :=
  ∃ (at_ : Place) (n : Text), fs.locate d.path = .ok at_ ∧ q = at_ ++ [n]

/-- **The file of an id is directly in the directory** when the steps before the last lead to the
directory. -/
theorem isInside_iff (h : fs.locate (d.file id) = .ok q) :
    d.IsInside fs q ↔ fs.locate (d.file id).parent = fs.locate d.path := by
  obtain ⟨at_, n, hat, -, rfl⟩ := exists_of_locate_file h
  rw [hat]
  constructor
  · rintro ⟨dir, m, hdir, heq⟩
    rw [hdir, (List.append_inj' heq rfl).1]
  · exact fun hdir => ⟨at_, n, hdir.symm, rfl⟩

theorem isInside_of_slash_notMem (h : '/' ∉ id) (hlocate : fs.locate (d.file id) = .ok q) :
    d.IsInside fs q :=
  (isInside_iff hlocate).mpr (congrArg fs.locate (file_parent h))

theorem slash_mem_idOfName_iff {name : Text} : '/' ∈ Scenario.idOfName name ↔ '/' ∈ name :=
  Scenario.mem_idOfName_iff (by decide) (by decide) (by decide) (by decide)

/-! ## What the operations change and read -/

/-- **Saving changes one file**, the one that the path of the id leads to. -/
theorem locate_of_save_changes {bytes : List UInt8}
    (h : ¬ ((d.save fs id content).1.node? q = some (.file bytes) ↔
      fs.node? q = some (.file bytes))) :
    (d.save fs id content).1.locate (d.file (Scenario.idOfName id)) = .ok q := by
  obtain ⟨made, hadds, hsave | ⟨place, hlocate, hnode, hsave⟩⟩ := d.save_spec fs id content
  · -- directories were made at most
    rw [hsave] at h
    exact absurd hadds.file_iff h
  · rw [hsave] at h ⊢
    by_cases hq : q = place
    · rw [hq]
      exact (FileTree.keepsDirectories_put hnode _).locate hlocate
    · rw [FileTree.node?_put made (FileTree.ne_root hnode), if_neg hq] at h
      exact absurd hadds.file_iff h

/-- **Deleting changes one place**, the one that the path of the id leads to. -/
theorem locate_of_delete_changes (h : (d.delete fs id).1.node? q ≠ fs.node? q) :
    fs.locate (d.file id) = .ok q := by
  rcases d.delete_spec fs id with hdelete | ⟨place, hlocate, hnode⟩
  · exact absurd (congrArg (·.node? q) hdelete) h
  · by_cases hq : q = place
    · rw [hq]
      exact hlocate
    · rw [hnode, if_neg hq] at h
      exact absurd rfl h

/-- **What is read is one file**: trees with the same directories that agree on it answer alike. -/
theorem get_congr (hdirs : fs.SameDirectories fs')
    (hfile : ∀ q, fs.locate (d.file id) = .ok q → fs'.node? q = fs.node? q) :
    d.get fs' id = d.get fs id := by
  rw [get, get]
  cases hlocate : fs.locate (d.file id) with
  | ok q =>
    rw [load, load, FileTree.readText, FileTree.readText, FileTree.read, FileTree.read, hlocate,
      hdirs.keeps.locate hlocate]
    dsimp only
    rw [hfile q hlocate]
  | error r =>
    -- the other tree has no file there either, and the same paths are none in both
    cases hlocate' : fs'.locate (d.file id) with
    | ok q => cases hlocate.symm.trans (hdirs.kept.locate hlocate')
    | error r' =>
      have hzero := FileTree.locate_eq_zeroCharacter_iff (p := d.file id) fs
      have hzero' := FileTree.locate_eq_zeroCharacter_iff (p := d.file id) fs'
      rw [hlocate, Except.error.injEq] at hzero
      rw [hlocate', Except.error.injEq] at hzero'
      rw [load_of_locate_eq_error hlocate, load_of_locate_eq_error hlocate']
      simp only [hzero, hzero']

/-! ## Staying in the directory -/

/-- **The operations on an id stay in the directory**: the only files that saving and deleting
change are directly in it, and so is what is read. -/
structure Confined (d : ScenarioDirectory) (fs : FileTree) (id content : Text) : Prop where
  save : ∀ q bytes, ¬ ((d.save fs id content).1.node? q = some (.file bytes) ↔
      fs.node? q = some (.file bytes)) → d.IsInside (d.save fs id content).1 q
  delete : ∀ q, (d.delete fs id).1.node? q ≠ fs.node? q → d.IsInside fs q
  get : ∀ fs', fs.SameDirectories fs' → (∀ q, d.IsInside fs q → fs'.node? q = fs.node? q) →
    d.get fs' id = d.get fs id

theorem confined_of_slash_notMem (h : '/' ∉ id) : d.Confined fs id content where
  save _ _ hq := isInside_of_slash_notMem (mt slash_mem_idOfName_iff.mp h)
    (locate_of_save_changes hq)
  delete _ hq := isInside_of_slash_notMem h (locate_of_delete_changes hq)
  get _ hdirs hinside := get_congr hdirs fun _ hlocate =>
    hinside _ (isInside_of_slash_notMem h hlocate)

/-- **The reach of an id**, whatever stands in it. Saving and deleting change one file at most and
reading looks at one file at most, the one that the path of the id leads to; that file is directly
in the directory exactly when the steps before the last lead to the directory. So an id without a
slash stays in the directory, whatever else stands in it. -/
theorem reach (d : ScenarioDirectory) (fs : FileTree) (id content : Text) :
    (∀ q bytes, ¬ ((d.save fs id content).1.node? q = some (.file bytes) ↔
          fs.node? q = some (.file bytes)) →
        (d.save fs id content).1.locate (d.file (Scenario.idOfName id)) = .ok q) ∧
      (∀ q, (d.delete fs id).1.node? q ≠ fs.node? q → fs.locate (d.file id) = .ok q) ∧
      (∀ fs', fs.SameDirectories fs' →
        (∀ q, fs.locate (d.file id) = .ok q → fs'.node? q = fs.node? q) →
        d.get fs' id = d.get fs id) ∧
      (∀ (tree : FileTree) (id' : Text) (q : Place), tree.locate (d.file id') = .ok q →
        (d.IsInside tree q ↔ tree.locate (d.file id').parent = tree.locate d.path)) ∧
      ('/' ∉ id → d.Confined fs id content) :=
  ⟨fun _ _ => locate_of_save_changes, fun _ => locate_of_delete_changes, fun _ => get_congr,
    fun _ _ _ => isInside_iff, confined_of_slash_notMem⟩

/-! ## Leaving the directory -/

/-- The place of a text file beside the directory. -/
def secretPlace : Place := ["work", "data", "secret.txt"]

/-- A directory with one scenario, and that text file beside it. -/
def besideSecret : FileTree :=
  ⟨[(["work"], .directory), (["work", "data"], .directory),
      (["work", "data", "scenarios"], .directory),
      (["work", "data", "scenarios", "inn.txt"], .file (utf8 "inn")),
      (secretPlace, .file (utf8 "secret"))], ["work"]⟩

/-- An id that stays, and one that leads to the file beside the directory. -/
theorem reach_besideSecret :
    let d : ScenarioDirectory := ⟨.ofText "data/scenarios"⟩
    '/' ∉ "inn".toList ∧ d.Confined besideSecret "inn" "den" ∧
      besideSecret.locate (d.file "../secret") = .ok secretPlace ∧
      ¬ d.IsInside besideSecret secretPlace := by
  intro d
  have hplace : besideSecret.locate (d.file "../secret") = .ok secretPlace := by decide +kernel
  obtain ⟨-, -, -, hinside, -⟩ := reach d besideSecret "../secret" "den"
  obtain ⟨-, -, -, -, hconfined⟩ := reach d besideSecret "inn" "den"
  refine ⟨by decide, hconfined (by decide), hplace, ?_⟩
  rw [hinside besideSecret "../secret" secretPlace hplace]
  decide +kernel

/-- **An id may leave the directory**: `../secret` is read, saved and deleted beside it. -/
theorem not_confined :
    let d : ScenarioDirectory := ⟨.ofText "data/scenarios"⟩
    d.get besideSecret "../secret" = .ok (some ⟨"../secret", "../secret", "secret"⟩) ∧
      (d.save besideSecret "../secret" "new").1.node? secretPlace = some (.file (utf8 "new")) ∧
      (d.delete besideSecret "../secret").1.node? secretPlace = none ∧
      ¬ ∀ (d : ScenarioDirectory) (fs : FileTree) (id content : Text),
        d.Confined fs id content := by
  intro d
  have hdelete : (d.delete besideSecret "../secret").1.node? secretPlace = none := by
    decide +kernel
  refine ⟨by rfl, by decide +kernel, hdelete, fun hconfined => ?_⟩
  have hchange : (d.delete besideSecret "../secret").1.node? secretPlace ≠
      besideSecret.node? secretPlace := by
    rw [hdelete]
    decide
  obtain ⟨at_, n, hat, hplace⟩ := (hconfined d besideSecret "../secret" "new").delete _ hchange
  have hdir : besideSecret.locate d.path = .ok ["work", "data", "scenarios"] := by decide +kernel
  cases hdir.symm.trans hat
  exact absurd (congrArg List.length hplace) (by simp [secretPlace])

end ScenarioDirectory

end Roleplay
