import Mathlib.Data.List.Nodup
import Roleplay.Proofs.Scenario.Files
import Roleplay.Proofs.Scenario.Names
import Roleplay.Proofs.Text.Order

/-!
# The directory as a map

Calls on a scenario directory are answered as a map from ids to contents would answer them: a
scenario is what was last saved under its id and not deleted since. The four ways between a name,
an id, a file and a display name agree, since an id is its own id, the stem of its file is the id,
and a content that was trimmed as it was written is read as it is.

The invariant of a run of calls is that the directory has a file for each scenario of the map, and
no other file. Before the first scenario is saved the directory may not be there, and then the map
is empty.

## Main definitions

* `ScenarioCall`, `ScenarioCall.Proper`: the calls, and those that name files
* `ScenarioDirectory.after`: the tree after a call
* `ScenarioDirectory.stored calls id`: what a run of calls has stored under an id
* `ScenarioDirectory.Represents d fs m`: the directory holds the scenarios of the map `m`
* `ScenarioDirectory.AnswersAs d fs m`: the directory answers as the map `m`

## Main results

* `ScenarioDirectory.Represents.after`, `ScenarioDirectory.represents_foldl`: what a call and a run
  of calls preserve
* `ScenarioDirectory.answersAs_stored`: every run of calls is answered as a map would
-/

namespace Roleplay

open Text

/-! ## Scenarios and calls -/

/-- The scenario of an id. -/
def Scenario.ofId (id content : Text) : Scenario :=
  ⟨id, Scenario.nameOfId id, content⟩

/-- **An id that is one name**: neither a slash nor a zero character stands in it. -/
structure Scenario.IsPlain (id : Text) : Prop where
  slash_notMem : '/' ∉ id
  zero_notMem : '\x00' ∉ id

instance (id : Text) : Decidable (Scenario.IsPlain id) :=
  decidable_of_iff ('/' ∉ id ∧ '\x00' ∉ id) ⟨fun ⟨h₁, h₂⟩ => ⟨h₁, h₂⟩, fun h => ⟨h.1, h.2⟩⟩

theorem Scenario.IsPlain.zero_notMem_append {id : Text} (h : Scenario.IsPlain id) :
    '\x00' ∉ id ++ ScenarioDirectory.ending :=
  fun hmem => (List.mem_append.mp hmem).elim h.zero_notMem (by decide)

/-- **The file system takes the name** of the file of an id. -/
def Scenario.Fits (id : Text) : Prop :=
  (utf8 (id ++ ScenarioDirectory.ending)).length ≤ FileTree.maxName

instance (id : Text) : Decidable (Scenario.Fits id) :=
  inferInstanceAs (Decidable (_ ≤ _))

/-- **A call** of a scenario directory. -/
inductive ScenarioCall
  | save (name content : Text)
  | get (id : Text)
  | delete (id : Text)
  | all
deriving DecidableEq, Repr

/-- **A call that names a file**, and saves no carriage return. -/
def ScenarioCall.Proper : ScenarioCall → Prop
  | save name content => Scenario.idOfName name ≠ [] ∧ Scenario.IsPlain (Scenario.idOfName name) ∧
      '\r' ∉ content
  | get id => Scenario.IsPlain id
  | delete id => Scenario.IsPlain id
  | all => True

instance (c : ScenarioCall) : Decidable c.Proper := by
  cases c <;> unfold ScenarioCall.Proper <;> infer_instance

/-- What a call makes of an id: what is stored under it then, if the call is about it. -/
def ScenarioCall.change (id : Text) : ScenarioCall → Option (Option Text)
  | save name content =>
    if Scenario.idOfName name = id ∧ Scenario.Fits id then some (some content.strip) else none
  | get _ => none
  | delete id' => if id' = id then some none else none
  | all => none

namespace ScenarioCall

variable {m : Text → Option Text} {name content : Text}

theorem change_save (hfits : Scenario.Fits (Scenario.idOfName name)) :
    (fun id => ((save name content).change id).getD (m id)) =
      Function.update m (Scenario.idOfName name) (some content.strip) := by
  funext id
  rw [change, Function.update_apply]
  by_cases hid : id = Scenario.idOfName name
  · rw [if_pos ⟨hid.symm, hid ▸ hfits⟩, if_pos hid, Option.getD_some]
  · rw [if_neg fun h => hid h.1.symm, if_neg hid, Option.getD_none]

theorem change_save_of_not_fits (hfits : ¬ Scenario.Fits (Scenario.idOfName name)) :
    (fun id => ((save name content).change id).getD (m id)) = m := by
  funext id
  rw [change, if_neg, Option.getD_none]
  rintro ⟨rfl, h⟩
  exact hfits h

theorem change_delete (id' : Text) :
    (fun id => ((delete id').change id).getD (m id)) = Function.update m id' none := by
  funext id
  rw [change, Function.update_apply]
  by_cases hid : id = id'
  · rw [if_pos hid.symm, if_pos hid, Option.getD_some]
  · rw [if_neg fun h => hid h.symm, if_neg hid, Option.getD_none]

end ScenarioCall

namespace ScenarioDirectory

/-- **What a run of calls has stored** under an id: what the last call about it left. -/
def stored (calls : List ScenarioCall) (id : Text) : Option Text :=
  (calls.reverse.findSome? (·.change id)).join

theorem stored_concat (calls : List ScenarioCall) (c : ScenarioCall) (id : Text) :
    stored (calls ++ [c]) id = (c.change id).getD (stored calls id) := by
  rw [stored, List.reverse_append, List.reverse_singleton, List.singleton_append,
    List.findSome?_cons]
  cases c.change id with
  | none => rfl
  | some t => rfl

/-- The tree after a call. -/
def after (d : ScenarioDirectory) (fs : FileTree) : ScenarioCall → FileTree
  | .save name content => (d.save fs name content).1
  | .get _ => fs
  | .delete id => (d.delete fs id).1
  | .all => (d.all fs).1

variable {d : ScenarioDirectory} {fs : FileTree} {at_ : Place} {m : Text → Option Text}
  {id name content : Text}

/-! ## The files of a directory -/

theorem stemOf_append_ending (h : id ≠ []) : Path.stemOf (id ++ ending) = id := by
  simp [Path.stemOf, ending, h]

/-- **What a file of the directory can hold**: an id that names one and that the file system takes,
and a trimmed content without carriage returns. -/
structure Storable (id t : Text) : Prop where
  ne_nil : id ≠ []
  plain : Scenario.IsPlain id
  fits : Scenario.Fits id
  stripped : t.Stripped
  ends : '\r' ∉ t

/-- **A directory that holds the scenarios of a map**, a file for each, and no other file. -/
structure Holds (d : ScenarioDirectory) (at_ : Place) (fs : FileTree) (m : Text → Option Text) :
    Prop where
  locate : fs.locate d.path = .ok at_
  isDirectory : fs.node? at_ = some .directory
  nodup : (fs.below at_).Nodup
  named : ∀ n ∈ fs.below at_, ∃ id : Text, n = id ++ ending
  node? : ∀ id : Text, fs.node? (at_ ++ [id ++ ending]) = (m id).map fun t => .file t.utf8
  storable : ∀ id t, m id = some t → Storable id t

namespace Holds

theorem makeDirectories (h : d.Holds at_ fs m) : fs.makeDirectories d.path = .ok fs :=
  FileTree.makeDirectories_eq_self (FileTree.isDirectory_iff.mpr ⟨at_, h.locate, h.isDirectory⟩)

/-- The place of the file of an id. -/
theorem locate_file (h : d.Holds at_ fs m) (hplain : Scenario.IsPlain id)
    (hfits : Scenario.Fits id) : fs.locate (d.file id) = .ok (at_ ++ [id ++ ending]) :=
  FileTree.locate_join_of_isFileName (isFileName_append_ending hplain.slash_notMem) h.locate
    h.isDirectory hplain.zero_notMem_append hfits

theorem locate_file_of_not_fits (h : d.Holds at_ fs m) (hplain : Scenario.IsPlain id)
    (hfits : ¬ Scenario.Fits id) : fs.locate (d.file id) = .error .nameTooLong :=
  FileTree.locate_join_of_lt (isFileName_append_ending hplain.slash_notMem) h.locate
    h.isDirectory hplain.zero_notMem_append (not_le.mp hfits)

/-- What does not fit is not there. -/
theorem eq_none_of_not_fits (h : d.Holds at_ fs m) (hfits : ¬ Scenario.Fits id) : m id = none := by
  cases hm : m id with
  | none => rfl
  | some t => exact absurd (h.storable id t hm).fits hfits

theorem node?_ne_directory (h : d.Holds at_ fs m) (id : Text) :
    fs.node? (at_ ++ [id ++ ending]) ≠ some .directory := by
  rw [h.node? id]
  cases m id <;> simp

/-- A name in the directory is that of the file of a scenario. -/
theorem mem_below_iff (h : d.Holds at_ fs m) {n : Text} :
    n ∈ fs.below at_ ↔ ∃ id t, n = id ++ ending ∧ m id = some t := by
  constructor
  · intro hn
    obtain ⟨id, rfl⟩ := h.named n hn
    rw [FileTree.mem_below_iff, h.node? id] at hn
    cases hm : m id with
    | none => simp [hm] at hn
    | some t => exact ⟨id, t, rfl, hm⟩
  · rintro ⟨id, t, rfl, hm⟩
    rw [FileTree.mem_below_iff, h.node? id, hm]
    simp

/-! ### One scenario -/

/-- **What is read** is what the map has. -/
theorem get (h : d.Holds at_ fs m) (hplain : Scenario.IsPlain id) :
    d.get fs id = .ok ((m id).map (Scenario.ofId id)) := by
  rw [ScenarioDirectory.get]
  by_cases hfits : Scenario.Fits id
  · rw [load, FileTree.readText, FileTree.read, h.locate_file hplain hfits]
    dsimp only
    rw [h.node? id]
    cases hm : m id with
    | none => rfl
    | some t =>
      have hs := h.storable id t hm
      simp only [Option.map_some, ofUtf8_utf8, readLineEnds_eq_self hs.ends]
      rw [hs.stripped]
      rfl
  · rw [load_of_locate_eq_error (h.locate_file_of_not_fits hplain hfits), if_neg (by decide),
      h.eq_none_of_not_fits hfits]
    rfl

/-- **The map with a scenario** put into it. -/
theorem put (h : d.Holds at_ fs m) {t : Text} (hs : Storable id t) :
    d.Holds at_ (fs.put (at_ ++ [id ++ ending]) (.file t.utf8))
      (Function.update m id (some t)) := by
  have hkeeps := FileTree.keepsDirectories_put (h.node?_ne_directory id) (.file t.utf8)
  refine ⟨hkeeps.locate h.locate, hkeeps.node? _ h.isDirectory,
    FileTree.nodup_below_put h.nodup _ _, fun n hn => ?_, fun id' => ?_, fun id' t' hm => ?_⟩
  · rw [FileTree.below_put] at hn
    split at hn
    · exact h.named n hn
    · rcases List.mem_append.mp hn with hn | hn
      · exact h.named n hn
      · exact ⟨id, List.mem_singleton.mp hn⟩
  · rw [FileTree.node?_put fs (FileTree.ne_root (h.node?_ne_directory id)), Function.update_apply]
    by_cases hid : id' = id
    · rw [if_pos hid, if_pos (by rw [hid]), Option.map_some]
    · rw [if_neg hid, if_neg (by simpa using hid), h.node? id']
  · rw [Function.update_apply] at hm
    split at hm
    · next hid =>
      cases hm
      exact hid ▸ hs
    · exact h.storable id' t' hm

/-- **The map without a scenario**. -/
theorem clear (h : d.Holds at_ fs m) (id : Text) :
    d.Holds at_ (fs.clear (at_ ++ [id ++ ending])) (Function.update m id none) := by
  have hkeeps := FileTree.keepsDirectories_clear (h.node?_ne_directory id)
  refine ⟨hkeeps.locate h.locate, hkeeps.node? _ h.isDirectory, ?_, fun n hn => ?_, fun id' => ?_,
    fun id' t' hm => ?_⟩
  · rw [FileTree.below_clear]
    exact h.nodup.filter _
  · rw [FileTree.below_clear] at hn
    exact h.named n (List.mem_of_mem_filter hn)
  · rw [FileTree.node?_clear fs (FileTree.ne_root (h.node?_ne_directory id)), Function.update_apply]
    by_cases hid : id' = id
    · rw [if_pos hid, if_pos (by rw [hid]), Option.map_none]
    · rw [if_neg hid, if_neg (by simpa using hid), h.node? id']
  · rw [Function.update_apply] at hm
    split at hm
    · cases hm
    · exact h.storable id' t' hm

/-- **Saving** puts a scenario where the file system takes its name. -/
theorem save (h : d.Holds at_ fs m) (hplain : Scenario.IsPlain (Scenario.idOfName name))
    (hfits : Scenario.Fits (Scenario.idOfName name)) :
    d.save fs name content =
      (fs.put (at_ ++ [Scenario.idOfName name ++ ending]) (.file content.strip.utf8),
        .ok (Scenario.ofId (Scenario.idOfName name) content.strip)) := by
  have hwrite : fs.writeText (d.file (Scenario.idOfName name)) content.strip =
      .ok (fs.put (at_ ++ [Scenario.idOfName name ++ ending]) (.file content.strip.utf8)) := by
    rw [FileTree.writeText, FileTree.write, h.locate_file hplain hfits]
    dsimp only
    split
    · next hdir => exact absurd hdir (h.node?_ne_directory _)
    · rfl
  rw [ScenarioDirectory.save, h.makeDirectories]
  simp only [hwrite]
  rfl

/-- A scenario whose name the file system does not take changes nothing. -/
theorem save_of_not_fits (h : d.Holds at_ fs m) (hplain : Scenario.IsPlain (Scenario.idOfName name))
    (hfits : ¬ Scenario.Fits (Scenario.idOfName name)) : (d.save fs name content).1 = fs := by
  rw [ScenarioDirectory.save, h.makeDirectories]
  simp only [FileTree.writeText, FileTree.write, h.locate_file_of_not_fits hplain hfits]

/-- **Deleting** takes a scenario away, where there is one. -/
theorem delete (h : d.Holds at_ fs m) (hplain : Scenario.IsPlain id) (hfits : Scenario.Fits id) :
    (d.delete fs id).2 = .ok (m id).isSome ∧
      d.Holds at_ (d.delete fs id).1 (Function.update m id none) := by
  have hlocate := h.locate_file hplain hfits
  have hnode := h.node? id
  rw [ScenarioDirectory.delete]
  cases hm : m id with
  | none =>
    rw [hm] at hnode
    have hremove : fs.remove (d.file id) = .error ⟨.notFound, d.file id⟩ := by
      rw [FileTree.remove, hlocate]
      simp only [hnode, Option.map_none]
    rw [hremove]
    refine ⟨rfl, ?_⟩
    rw [← hm, Function.update_eq_self]
    exact h
  | some t =>
    rw [hm] at hnode
    rw [FileTree.remove_of_locate hlocate hnode]
    exact ⟨rfl, h.clear id⟩

theorem delete_of_not_fits (h : d.Holds at_ fs m) (hplain : Scenario.IsPlain id)
    (hfits : ¬ Scenario.Fits id) : (d.delete fs id).1 = fs := by
  rw [ScenarioDirectory.delete, FileTree.remove, h.locate_file_of_not_fits hplain hfits]

/-! ### All scenarios -/

/-- The scenario of the file of a name. -/
def ofFileName (m : Text → Option Text) (n : Text) : Scenario :=
  .ofId (Path.stemOf n) ((m (Path.stemOf n)).getD [])

theorem ofFileName_append_ending {t : Text} (hne : id ≠ []) (hm : m id = some t) :
    ofFileName m (id ++ ending) = .ofId id t := by
  rw [ofFileName, stemOf_append_ending hne, hm, Option.getD_some]

theorem fileNames (h : d.Holds at_ fs m) : d.fileNames fs = fs.below at_ := by
  rw [ScenarioDirectory.fileNames, FileTree.list_eq_below h.locate h.isDirectory,
    List.filter_eq_self]
  intro n hn
  obtain ⟨id, rfl⟩ := h.named n hn
  rw [List.reverse_append, startsWith, dropPrefix?_append]
  rfl

/-- **All scenarios** are those of the names in the directory, sorted. -/
theorem all (h : d.Holds at_ fs m) :
    d.all fs = (fs, .ok (((fs.below at_).map (ofFileName m)).mergeSort precedes)) := by
  have hload : (fs.below at_).mapM (fun n => load fs (Path.stemOf n) (d.path.join n)) =
      .ok ((fs.below at_).map fun n => some (ofFileName m n)) := by
    refine Except.mapM_eq_ok fun n hn => ?_
    obtain ⟨id, t, rfl, hm⟩ := h.mem_below_iff.mp hn
    have hs := h.storable id t hm
    have hget := h.get hs.plain
    rw [hm] at hget
    rw [stemOf_append_ending hs.ne_nil, ofFileName_append_ending hs.ne_nil hm]
    exact hget
  rw [ScenarioDirectory.all, h.makeDirectories]
  simp only [h.fileNames, hload, Except.map, List.filterMap_map]
  rw [Function.id_comp, List.filterMap_eq_map']

end Holds

/-! ## Runs of calls -/

/-- **A tree whose directory holds the scenarios of a map**, or will hold them once it is made; as
long as it is not made there are none. -/
def Represents (d : ScenarioDirectory) (fs : FileTree) (m : Text → Option Text) : Prop :=
  ∃ made at_, fs.makeDirectories d.path = .ok made ∧ d.Holds at_ made m ∧
    (fs = made ∨ ∀ id, m id = none)

theorem Holds.represents (h : d.Holds at_ fs m) : d.Represents fs m :=
  ⟨fs, at_, h.makeDirectories, h, .inl rfl⟩

/-- The directory is there, or there are no scenarios and no file is found. -/
theorem Represents.cases (h : d.Represents fs m) :
    (∃ at_, d.Holds at_ fs m) ∨ (∀ id, m id = none) ∧
      ∀ id, Scenario.IsPlain id → fs.locate (d.file id) = .error .notFound := by
  obtain ⟨made, at_, hmake, hholds, rfl | hnone⟩ := h
  · exact .inl ⟨at_, hholds⟩
  · rcases FileTree.eq_or_locate_of_makeDirectories hmake with rfl | hlocate
    · exact .inl ⟨at_, hholds⟩
    · exact .inr ⟨hnone, fun id hid =>
        hlocate _ (isFileName_append_ending hid.slash_notMem) hid.zero_notMem_append⟩

/-- Saving makes the directory first. -/
theorem save_of_makeDirectories {made : FileTree} (h : fs.makeDirectories d.path = .ok made)
    (h' : made.makeDirectories d.path = .ok made) :
    d.save fs name content = d.save made name content := by
  rw [save, save, h, h']

theorem all_of_makeDirectories {made : FileTree} (h : fs.makeDirectories d.path = .ok made)
    (h' : made.makeDirectories d.path = .ok made) : d.all fs = d.all made := by
  rw [all, all, h, h']

/-- **What a call preserves.** -/
theorem Represents.after (h : d.Represents fs m) {c : ScenarioCall} (hc : c.Proper) :
    d.Represents (d.after fs c) fun id => (c.change id).getD (m id) := by
  cases c with
  | save name content =>
    obtain ⟨made, at_, hmake, hholds, -⟩ := h
    obtain ⟨hne, hplain, hends⟩ := hc
    rw [ScenarioDirectory.after, save_of_makeDirectories hmake hholds.makeDirectories]
    by_cases hfits : Scenario.Fits (Scenario.idOfName name)
    · have hs : Storable (Scenario.idOfName name) content.strip :=
        ⟨hne, hplain, hfits, stripped_strip content,
          fun hmem => hends ((strip_isInfix content).subset hmem)⟩
      rw [ScenarioCall.change_save hfits, hholds.save hplain hfits]
      exact (hholds.put hs).represents
    · rw [ScenarioCall.change_save_of_not_fits hfits, hholds.save_of_not_fits hplain hfits]
      exact hholds.represents
  | get id => exact h
  | delete id =>
    rw [ScenarioDirectory.after, ScenarioCall.change_delete]
    rcases h.cases with ⟨at_, hholds⟩ | ⟨hnone, hlocate⟩
    · by_cases hfits : Scenario.Fits id
      · exact (hholds.delete hc hfits).2.represents
      · rw [hholds.delete_of_not_fits hc hfits, ← hholds.eq_none_of_not_fits hfits,
          Function.update_eq_self]
        exact h
    · rw [delete_of_locate_eq_error (hlocate id hc), ← hnone id, Function.update_eq_self]
      exact h
  | all =>
    obtain ⟨made, at_, hmake, hholds, -⟩ := h
    rw [ScenarioDirectory.after, all_of_makeDirectories hmake hholds.makeDirectories, hholds.all]
    exact hholds.represents

/-- An empty directory, or one that can be made, has no scenarios. -/
theorem represents_of_list_eq_nil {made : FileTree} (hmake : fs.makeDirectories d.path = .ok made)
    (hempty : made.list d.path = []) : d.Represents fs fun _ => none := by
  obtain ⟨at_, hlocate, hdir⟩ :=
    FileTree.isDirectory_iff.mp (FileTree.makeDirectories_spec hmake).2
  have hbelow : made.below at_ = [] := (FileTree.list_eq_below hlocate hdir).symm.trans hempty
  refine ⟨made, at_, hmake, ⟨hlocate, hdir, ?_, ?_, fun id => ?_, ?_⟩, .inr fun _ => rfl⟩
  · rw [hbelow]
    exact List.nodup_nil
  · rw [hbelow]
    exact fun n hn => absurd hn List.not_mem_nil
  · have hnotMem : id ++ ending ∉ made.below at_ := hbelow ▸ List.not_mem_nil
    exact not_not.mp (mt FileTree.mem_below_iff.mpr hnotMem)
  · rintro _ _ ⟨⟩

/-- **What a run of calls preserves**: the directory holds what the calls have stored. -/
theorem represents_foldl {calls : List ScenarioCall} (h : d.Represents fs fun _ => none)
    (hcalls : ∀ c ∈ calls, c.Proper) :
    d.Represents (calls.foldl d.after fs) (stored calls) := by
  induction calls using List.reverseRecOn with
  | nil => exact h
  | append_singleton calls c ih =>
    obtain ⟨hcalls, hc⟩ := List.forall_mem_append.mp hcalls
    rw [List.foldl_append, funext (stored_concat calls c)]
    exact (ih hcalls).after (hc c List.mem_cons_self)

/-! ## The answers -/

/-- **A directory that answers as a map.** -/
structure AnswersAs (d : ScenarioDirectory) (fs : FileTree) (m : Text → Option Text) : Prop where
  get : ∀ id, Scenario.IsPlain id → d.get fs id = .ok ((m id).map (Scenario.ofId id))
  delete : ∀ id, Scenario.IsPlain id → Scenario.Fits id → (d.delete fs id).2 = .ok (m id).isSome
  save : ∀ name content, (ScenarioCall.save name content).Proper →
    Scenario.Fits (Scenario.idOfName name) →
    (d.save fs name content).2 = .ok (Scenario.ofId (Scenario.idOfName name) content.strip)
  all : ∃ ss, (d.all fs).2 = .ok ss ∧ (ss.map (·.id)).Nodup ∧
    (∀ s, s ∈ ss ↔ ∃ t, m s.id = some t ∧ s = Scenario.ofId s.id t) ∧
    (∀ s ∈ ss, d.get fs s.id = .ok (some s)) ∧
    ss.Pairwise fun s t => s.name.lower ≤ t.name.lower

/-- Scenarios are sorted by their names in small letters. -/
theorem pairwise_mergeSort_precedes (ss : List Scenario) :
    (ss.mergeSort precedes).Pairwise fun s t => s.name.lower ≤ t.name.lower := by
  refine (List.pairwise_mergeSort (fun s t u hst htu => ?_) (fun s t => ?_) ss).imp le_iff.mp
  · exact le_iff.mpr ((le_iff.mp hst).trans (le_iff.mp htu))
  · simp only [Bool.or_eq_true, le_iff]
    exact le_total _ _

theorem Holds.exists_all (h : d.Holds at_ fs m) :
    ∃ ss, d.all fs = (fs, .ok ss) ∧ (ss.map (·.id)).Nodup ∧
      (∀ s, s ∈ ss ↔ ∃ t, m s.id = some t ∧ s = Scenario.ofId s.id t) ∧
      ss.Pairwise fun s t => s.name.lower ≤ t.name.lower := by
  refine ⟨_, h.all, ?_, fun s => ?_, pairwise_mergeSort_precedes _⟩
  · -- the ids are the stems of the names, and those are the names without their endings
    rw [((List.mergeSort_perm _ precedes).map _).nodup_iff, List.map_map]
    refine List.Nodup.map_on (fun n hn n' hn' heq => ?_) h.nodup
    obtain ⟨id, t, rfl, hm⟩ := h.mem_below_iff.mp hn
    obtain ⟨id', t', rfl, hm'⟩ := h.mem_below_iff.mp hn'
    rw [Function.comp_apply, Function.comp_apply,
      ofFileName_append_ending (h.storable id t hm).ne_nil hm,
      ofFileName_append_ending (h.storable id' t' hm').ne_nil hm'] at heq
    exact congrArg (· ++ ending) heq
  · rw [List.mem_mergeSort, List.mem_map]
    constructor
    · rintro ⟨n, hn, rfl⟩
      obtain ⟨id, t, rfl, hm⟩ := h.mem_below_iff.mp hn
      rw [ofFileName_append_ending (h.storable id t hm).ne_nil hm]
      exact ⟨t, hm, rfl⟩
    · rintro ⟨t, hm, hs⟩
      refine ⟨s.id ++ ending, h.mem_below_iff.mpr ⟨s.id, t, rfl, hm⟩, ?_⟩
      rw [ofFileName_append_ending (h.storable s.id t hm).ne_nil hm, ← hs]

theorem Represents.answersAs (h : d.Represents fs m) : d.AnswersAs fs m := by
  have hcases := h.cases
  have hget : ∀ id, Scenario.IsPlain id → d.get fs id = .ok ((m id).map (Scenario.ofId id)) := by
    intro id hid
    rcases hcases with ⟨at_, hholds⟩ | ⟨hnone, hlocate⟩
    · exact hholds.get hid
    · rw [ScenarioDirectory.get, load_of_locate_eq_error (hlocate id hid), if_neg (by decide),
        hnone id]
      rfl
  obtain ⟨made, at_, hmake, hholds, -⟩ := h
  refine ⟨hget, fun id hid hfits => ?_, fun name content hsave hfits => ?_, ?_⟩
  · rcases hcases with ⟨at_, hholds⟩ | ⟨hnone, hlocate⟩
    · exact (hholds.delete hid hfits).1
    · rw [delete_of_locate_eq_error (hlocate id hid), if_pos rfl, hnone id]
      rfl
  · rw [save_of_makeDirectories hmake hholds.makeDirectories, hholds.save hsave.2.1 hfits]
  · obtain ⟨ss, hall, hnodup, hmem, hsorted⟩ := hholds.exists_all
    refine ⟨ss, ?_, hnodup, hmem, fun s hs => ?_, hsorted⟩
    · rw [all_of_makeDirectories hmake hholds.makeDirectories, hall]
    · obtain ⟨t, hm, heq⟩ := (hmem s).mp hs
      rw [hget s.id (hholds.storable s.id t hm).plain, hm, Option.map_some, ← heq]

/-- **The directory is a map.** After every run of calls on a directory that was empty, or was not
there, each call is answered as the map answers that has the content last saved under each id and
not deleted since. The id of an id is the id itself, so what is saved under the id of a scenario
takes its place. -/
theorem answersAs_stored {made : FileTree} (hmake : fs.makeDirectories d.path = .ok made)
    (hempty : made.list d.path = []) {calls : List ScenarioCall} (hcalls : ∀ c ∈ calls, c.Proper) :
    d.AnswersAs (calls.foldl d.after fs) (stored calls) ∧
      ∀ (tree : FileTree) (name content : Text),
        d.save tree (Scenario.idOfName name) content = d.save tree name content := by
  refine ⟨(represents_foldl (represents_of_list_eq_nil hmake hempty) hcalls).answersAs,
    fun tree name content => ?_⟩
  rw [save, save, Scenario.idOfName_idOfName]

/-- A scenario that is saved, found under its id, and saved again, and one that is deleted. -/
theorem answersAs_stored_inn :
    let d : ScenarioDirectory := ⟨.ofText "scenarios"⟩
    let calls : List ScenarioCall :=
      [.get "the_inn", .save " The  INN " " a room ", .save "Attic" "dust", .all,
        .save "the_inn" "a hall\n", .delete "attic"]
    let fs := calls.foldl d.after .empty
    (∀ c ∈ calls, c.Proper) ∧ d.get fs "the_inn" = .ok (some ⟨"the_inn", "The Inn", "a hall"⟩) ∧
      d.get fs "attic" = .ok none ∧ (d.delete fs "the_inn").2 = .ok true ∧
      (d.save fs "THE inn" "").2 = .ok ⟨"the_inn", "The Inn", []⟩ := by
  intro d calls fs
  have hcalls : ∀ c ∈ calls, c.Proper := by decide +kernel
  have hmake : FileTree.empty.makeDirectories d.path =
      .ok (FileTree.empty.put ["work", "scenarios"] .directory) := by
    rw [FileTree.makeDirectories]
    rfl
  obtain ⟨hanswers, -⟩ := answersAs_stored hmake (by decide +kernel) hcalls
  have hinn : stored calls "the_inn" = some "a hall".toList := by decide +kernel
  have hattic : stored calls "attic" = none := by decide +kernel
  have hget := hanswers.get "the_inn" (by decide)
  have hnone := hanswers.get "attic" (by decide)
  have hdelete := hanswers.delete "the_inn" (by decide) (by decide +kernel)
  have hsave := hanswers.save "THE inn" "" (by decide +kernel) (by decide +kernel)
  rw [hinn] at hget hdelete
  rw [hattic] at hnone
  exact ⟨hcalls, hget.trans rfl, hnone, hdelete, hsave.trans rfl⟩

end ScenarioDirectory

end Roleplay
