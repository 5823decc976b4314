import Roleplay.Proofs.Files.Directory
import Roleplay.Scenario.Directory

/-!
# The files of scenarios

An id is free text, so it may hold slashes, and the path of its file may lead anywhere. Its last
name still ends as all files of scenarios do: it is the name of a file, in whatever directory the
path leads to. Without a slash that is the directory of the scenarios.

## Main results

* `ScenarioDirectory.exists_file_eq_join`, `ScenarioDirectory.exists_of_locate_file`: the last step
  to the file of an id
* `ScenarioDirectory.file_parent`: the file of an id without a slash
* `ScenarioDirectory.save_spec`, `ScenarioDirectory.delete_spec`: what saving and deleting do to a
  tree
-/

namespace Roleplay

open Text

/-- What is put behind a text is behind its last piece. -/
theorem Text.exists_splitOn_append {u : Text} {c : Char} (h : c ∉ u) (t : Text) :
    ∃ (ps : List Text) (l : Text), c ∉ l ∧ t.splitOn c = ps ++ [l] ∧
      splitOn (t ++ u) c = ps ++ [l ++ u] := by
  induction t with
  | nil => exact ⟨[], [], List.not_mem_nil, rfl, splitOn_of_notMem h⟩
  | cons d t ih =>
    obtain ⟨ps, l, hl, ht, htu⟩ := ih
    rw [List.cons_append, splitOn, splitOn, ht, htu]
    by_cases hd : d = c
    · rw [if_pos hd, if_pos hd]
      exact ⟨[] :: ps, l, hl, rfl, rfl⟩
    · rw [if_neg hd, if_neg hd]
      cases ps with
      | nil =>
        refine ⟨[], d :: l, ?_, rfl, rfl⟩
        exact fun hc => (List.mem_cons.mp hc).elim (fun hdc => hd hdc.symm) hl
      | cons p ps => exact ⟨(d :: p) :: ps, l, hl, rfl, rfl⟩

namespace ScenarioDirectory

variable {d : ScenarioDirectory} {fs fs' : FileTree} {id name content : Text} {q : Place}

/-- The name of a file. -/
theorem isFileName_append_ending (h : '/' ∉ id) : Text.IsFileName (id ++ ending) where
  ne_nil := List.append_ne_nil_of_right_ne_nil _ (List.cons_ne_nil _ _)
  slash_notMem hmem := (List.mem_append.mp hmem).elim h (by decide)
  ne_here heq := by simpa [ending] using congrArg List.length heq
  ne_up heq := by simpa [ending] using congrArg List.length heq

/-- **The last step to the file of an id** is the name of a file, wherever the others lead. -/
theorem exists_file_eq_join (d : ScenarioDirectory) (id : Text) :
    ∃ n : Text, n.IsFileName ∧ d.file id = (d.file id).parent.join n := by
  obtain ⟨ps, l, hl, -, hsplit⟩ := exists_splitOn_append (u := ending) (c := '/') (by decide) id
  have hname : Text.IsFileName (l ++ ending) := isFileName_append_ending hl
  have hnames : (Path.ofText (id ++ ending)).names =
      ps.filter (fun n => n ≠ [] ∧ n ≠ ['.']) ++ [l ++ ending] := by
    simp [Path.ofText, hsplit, List.filter_append, hname.ne_nil, hname.ne_here]
  refine ⟨l ++ ending, hname, ?_⟩
  rw [Path.join_of_isFileName hname, Path.parent, file, Path.join]
  -- what stands before the last name is the path of the directory or that of the id alone
  dsimp only
  split
  · rw [hnames, ← List.append_assoc, List.dropLast_concat]
  · rw [hnames, List.dropLast_concat, ← hnames]

/-- **The place of the file of an id** is in the directory that the steps before the last lead
to. -/
theorem exists_of_locate_file (h : fs.locate (d.file id) = .ok q) :
    ∃ (at_ : Place) (n : Text), fs.locate (d.file id).parent = .ok at_ ∧
      fs.node? at_ = some .directory ∧ q = at_ ++ [n] := by
  obtain ⟨n, hname, hfile⟩ := exists_file_eq_join d id
  rw [hfile] at h
  obtain ⟨at_, hat, hdir, rfl⟩ := FileTree.exists_of_locate_join hname h
  exact ⟨at_, n, hat, hdir, rfl⟩

/-- **The file of an id without a slash** is one of the directory. -/
theorem file_parent (h : '/' ∉ id) : (d.file id).parent = d.path := by
  rw [file, Path.join_of_isFileName (isFileName_append_ending h), Path.parent,
    List.dropLast_concat]

/-- A file at a place that is not reached is not there, unless its path is none. -/
theorem load_of_locate_eq_error {p : Path} {r : FileReason} (h : fs.locate p = .error r) :
    load fs id p =
      if r = .zeroCharacter then .error (.file ⟨.zeroCharacter, p⟩) else .ok none := by
  rw [load, FileTree.readText, FileTree.read, h]
  by_cases hr : r = .zeroCharacter
  · simp [isAbsence, hr]
  · simp [isAbsence, hr]

/-- A file at a place that is not reached is not deleted. -/
theorem delete_of_locate_eq_error {r : FileReason} (h : fs.locate (d.file id) = .error r) :
    d.delete fs id =
      (fs, if r = .notFound then .ok false else .error (.file ⟨r, d.file id⟩)) := by
  rw [delete, FileTree.remove, h]

/-- **What saving does to a tree**: it makes directories, and then writes the file or does not. -/
theorem save_spec (d : ScenarioDirectory) (fs : FileTree) (name content : Text) :
    ∃ made : FileTree, fs.AddsDirectories made ∧
      ((d.save fs name content).1 = made ∨
        ∃ q, made.locate (d.file (Scenario.idOfName name)) = .ok q ∧
          made.node? q ≠ some .directory ∧
          (d.save fs name content).1 = made.put q (.file content.strip.utf8)) := by
  rw [save]
  cases hmake : fs.makeDirectories d.path with
  | error f => exact ⟨fs, .refl fs, .inl rfl⟩
  | ok made =>
    refine ⟨made, (FileTree.makeDirectories_spec hmake).1, ?_⟩
    dsimp only
    cases hwrite : made.writeText (d.file (Scenario.idOfName name)) content.strip with
    | error f => exact .inl rfl
    | ok written =>
      obtain ⟨q, hlocate, hnode, rfl⟩ := FileTree.exists_of_write_eq_ok hwrite
      exact .inr ⟨q, hlocate, hnode, rfl⟩

/-- **What deleting does to a tree**: it clears the place of the file, or does nothing. -/
theorem delete_spec (d : ScenarioDirectory) (fs : FileTree) (id : Text) :
    (d.delete fs id).1 = fs ∨
      ∃ q, fs.locate (d.file id) = .ok q ∧
        ∀ q', (d.delete fs id).1.node? q' = if q' = q then none else fs.node? q' := by
  rw [delete]
  cases hremove : fs.remove (d.file id) with
  | error f => exact .inl rfl
  | ok removed =>
    obtain ⟨q, hlocate, -, hnode⟩ := FileTree.exists_of_remove_eq_ok hremove
    exact .inr ⟨q, hlocate, hnode⟩

end ScenarioDirectory

end Roleplay
