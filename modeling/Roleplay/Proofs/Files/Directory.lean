import Roleplay.Proofs.Files.Tree
import Roleplay.Proofs.Text.Occurrence

/-!
# The files of a directory

A name of a file is one step of a path, so a file of a directory stands at the place of the
directory with its name behind. Making directories adds directories where nothing stood and changes
nothing else; removing a file takes away what stands at its place and nothing else. Both leave all
directories, so every path leads where it led.

## Main definitions

* `Text.IsFileName n`: `n` is the name of a file
* `FileTree.AddsDirectories`: a tree has some directories more than another one
* `FileTree.clear`: a tree without what stands at a place

## Main results

* `Path.join_of_isFileName`, `FileTree.locate_join`, `FileTree.exists_of_locate_join`: the path of a
  file of a directory
* `FileTree.makeDirectories_spec`, `FileTree.eq_or_locate_of_makeDirectories`: making directories
* `FileTree.exists_of_remove_eq_ok`, `FileTree.exists_of_foldlM_remove`: removing files
* `FileTree.mem_below_iff`, `FileTree.below_put`, `FileTree.below_clear`: the names in a directory
* `FileTree.locate_eq_zeroCharacter_iff`, `FileTree.read_eq_zeroCharacter_iff`: paths that are none
-/

namespace Roleplay

open Text

/-! ## Names -/

/-- **A name of a file**: it is there, has no slash, and does not lead elsewhere. -/
structure Text.IsFileName (n : Text) : Prop where
  ne_nil : n ≠ []
  slash_notMem : '/' ∉ n
  ne_here : n ≠ ['.']
  ne_up : n ≠ ['.', '.']

instance (n : Text) : Decidable n.IsFileName :=
  decidable_of_iff (n ≠ [] ∧ '/' ∉ n ∧ n ≠ ['.'] ∧ n ≠ ['.', '.'])
    ⟨fun ⟨h₁, h₂, h₃, h₄⟩ => ⟨h₁, h₂, h₃, h₄⟩,
      fun h => ⟨h.ne_nil, h.slash_notMem, h.ne_here, h.ne_up⟩⟩

theorem Text.splitOn_of_notMem {t : Text} {c : Char} (h : c ∉ t) : t.splitOn c = [t] := by
  induction t with
  | nil => rfl
  | cons d t ih =>
    obtain ⟨hd, ht⟩ := not_or.mp (mt List.mem_cons.mpr h)
    rw [splitOn, if_neg (Ne.symm hd), ih ht]

/-- **A name is one step** from a directory. -/
theorem Path.join_of_isFileName {n : Text} (h : n.IsFileName) (p : Path) :
    p.join n = ⟨p.slashes, p.names ++ [n]⟩ := by
  have hslashes : leadingSlashes n = 0 := by
    obtain ⟨c, t, rfl⟩ := List.exists_cons_of_ne_nil h.ne_nil
    have hc : c ≠ '/' := fun hc => h.slash_notMem (hc ▸ List.mem_cons_self)
    simp [leadingSlashes, hc]
  have hnames : ofText n = ⟨0, [n]⟩ := by
    rw [ofText, hslashes, splitOn_of_notMem h.slash_notMem]
    simp [h.ne_nil, h.ne_here]
  rw [join, hnames]
  rfl

namespace FileTree

variable {fs fs' : FileTree} {p : Path} {q : Place} {n : Text}

/-- **The place of a file of a directory** is that of the directory, with the name behind. -/
theorem exists_of_locate_join (h : n.IsFileName) (hlocate : fs.locate (p.join n) = .ok q) :
    ∃ at_, fs.locate p = .ok at_ ∧ fs.node? at_ = some .directory ∧ q = at_ ++ [n] := by
  rw [Path.join_of_isFileName h] at hlocate
  obtain ⟨at_, hat, hstep⟩ := exists_of_locate_concat hlocate
  have hdir := isDirectory_of_step hstep
  refine ⟨at_, hat, hdir, ?_⟩
  rw [step, hdir] at hstep
  dsimp only at hstep
  rw [if_neg h.ne_up] at hstep
  split at hstep
  · cases hstep
  · cases hstep
    rfl

/-- **The last step** to a file of a directory is its name. -/
theorem locate_join (fs : FileTree) (p : Path) (h : n.IsFileName) (hzero : '\x00' ∉ n) :
    fs.locate (p.join n) = fs.locate p >>= fun at_ => fs.step at_ n := by
  have hany : (p.names ++ [n]).any (·.contains ['\x00']) = p.names.any (·.contains ['\x00']) := by
    have hn : contains n ['\x00'] = false := by
      rw [Bool.eq_false_iff, ne_eq, contains_iff_isInfix, List.singleton_infix_iff]
      exact hzero
    rw [List.any_append, List.any_cons, List.any_nil, hn, Bool.or_self, Bool.or_false]
  rw [Path.join_of_isFileName h, locate, locate, hany]
  split
  · rfl
  · rw [List.foldlM_append]
    exact congrArg (_ >>= ·) (funext fun at_ => bind_pure _)

/-- **A file of a directory** is reached by its name, when that is not too long and has no zero
character. -/
theorem locate_join_of_isFileName (h : n.IsFileName) (hlocate : fs.locate p = .ok q)
    (hdir : fs.node? q = some .directory) (hzero : '\x00' ∉ n) (hlength : n.utf8.length ≤ maxName) :
    fs.locate (p.join n) = .ok (q ++ [n]) := by
  rw [locate_join fs p h hzero, hlocate]
  show fs.step q n = _
  rw [step, hdir]
  dsimp only
  rw [if_neg h.ne_up, if_neg (not_lt.mpr hlength)]

/-- A name that is too long leads nowhere. -/
theorem locate_join_of_lt (h : n.IsFileName) (hlocate : fs.locate p = .ok q)
    (hdir : fs.node? q = some .directory) (hzero : '\x00' ∉ n) (hlength : maxName < n.utf8.length) :
    fs.locate (p.join n) = .error .nameTooLong := by
  rw [locate_join fs p h hzero, hlocate]
  show fs.step q n = _
  rw [step, hdir]
  dsimp only
  rw [if_neg h.ne_up, if_pos hlength]

/-! ## Making directories -/

/-- **A tree with some directories more**, at places where nothing stood. -/
structure AddsDirectories (fs fs' : FileTree) : Prop where
  working : fs'.working = fs.working
  node? : ∀ q, fs'.node? q = fs.node? q ∨ fs.node? q = none ∧ fs'.node? q = some .directory

theorem AddsDirectories.refl (fs : FileTree) : fs.AddsDirectories fs :=
  ⟨rfl, fun _ => .inl rfl⟩

theorem AddsDirectories.trans {fs'' : FileTree} (h : fs.AddsDirectories fs')
    (h' : fs'.AddsDirectories fs'') : fs.AddsDirectories fs'' := by
  refine ⟨h'.working.trans h.working, fun q => ?_⟩
  rcases h'.node? q with hq' | ⟨hnone, hdir⟩
  · rw [hq']
    exact h.node? q
  · rcases h.node? q with hq | ⟨-, hdir'⟩
    · exact .inr ⟨hq ▸ hnone, hdir⟩
    · cases hnone.symm.trans hdir'

/-- **All files stay**, and no file is new. -/
theorem AddsDirectories.file_iff (h : fs.AddsDirectories fs') {bytes : List UInt8} :
    fs'.node? q = some (.file bytes) ↔ fs.node? q = some (.file bytes) := by
  rcases h.node? q with hq | ⟨hnone, hdir⟩
  · rw [hq]
  · rw [hnone, hdir]
    simp

theorem makeDirectory_spec (h : fs.makeDirectory p = .ok fs') :
    fs.AddsDirectories fs' ∧ fs'.isDirectory p = true := by
  rw [makeDirectory] at h
  split at h
  · cases h
  · next q hlocate =>
    split at h
    · cases h
    · next hnone =>
      cases h
      have hnode : fs.node? q ≠ some .directory := by simp [hnone]
      have hput := node?_put fs (ne_root hnode) .directory
      refine ⟨⟨rfl, fun q' => ?_⟩, isDirectory_iff.mpr ⟨q, ?_, ?_⟩⟩
      · rw [hput]
        by_cases hq' : q' = q
        · exact .inr ⟨hq' ▸ hnone, if_pos hq'⟩
        · exact .inl (if_neg hq')
      · exact (keepsDirectories_put hnode _).locate hlocate
      · rw [hput, if_pos rfl]

theorem ensureDirectory_spec (h : fs.ensureDirectory p = .ok fs') :
    fs.AddsDirectories fs' ∧ fs'.isDirectory p = true := by
  rw [ensureDirectory] at h
  split at h
  · next hmake =>
    cases h
    exact makeDirectory_spec hmake
  · split at h
    · next hdir =>
      cases h
      exact ⟨.refl fs, hdir⟩
    · cases h

/-- **Making directories** adds directories, and the directory is there then. -/
theorem makeDirectories_spec (h : fs.makeDirectories p = .ok fs') :
    fs.AddsDirectories fs' ∧ fs'.isDirectory p = true := by
  fun_induction makeDirectories fs p generalizing fs' with
  | case1 => cases h
  | case2 => cases h
  | case3 p _ _ made hmade ih =>
    -- those that it lies in first, then the directory itself
    obtain ⟨hadds, -⟩ := ih hmade
    obtain ⟨hadds', hdir⟩ := ensureDirectory_spec h
    exact ⟨hadds.trans hadds', hdir⟩
  | case4 p r hmake _ hdir =>
    cases h
    exact ⟨.refl fs, hdir⟩
  | case5 => cases h
  | case6 p made hmake =>
    cases h
    exact makeDirectory_spec hmake

/-- **A directory that is not made yet** has no files. -/
theorem eq_or_locate_of_makeDirectories (h : fs.makeDirectories p = .ok fs') :
    fs = fs' ∨ ∀ n : Text, n.IsFileName → '\x00' ∉ n →
      fs.locate (p.join n) = .error .notFound := by
  rw [makeDirectories] at h
  split at h
  · -- a directory on the way is not there
    next hmake =>
    right
    intro n hn hzero
    rw [locate_join fs p hn hzero]
    rw [makeDirectory] at hmake
    split at hmake
    · next r hlocate =>
      cases hmake
      rw [hlocate]
      rfl
    · split at hmake <;> cases hmake
  · split at h
    · cases h
      exact .inl rfl
    · cases h
  · -- the directory itself is not there
    next made hmake =>
    right
    intro n hn hzero
    rw [locate_join fs p hn hzero]
    rw [makeDirectory] at hmake
    split at hmake
    · cases hmake
    · next q hlocate =>
      split at hmake
      · cases hmake
      · next hnone =>
        rw [hlocate]
        show fs.step q n = _
        rw [step, hnone]

/-! ## Removing files -/

theorem lookup_filter_ne (q q' : Place) (ns : List (Place × Node)) :
    (ns.filter (·.1 ≠ q)).lookup q' = if q' = q then none else ns.lookup q' := by
  induction ns with
  | nil => simp
  | cons m ns ih =>
    obtain ⟨r, m⟩ := m
    rw [List.filter_cons, lookup_cons]
    by_cases hr : r = q
    · rw [if_neg (by simp [hr]), ih]
      by_cases hq' : q' = q
      · rw [if_pos hq', if_pos hq']
      · rw [if_neg hq', if_neg hq', if_neg fun h => hq' (h.trans hr)]
    · rw [if_pos (by simp [hr]), lookup_cons, ih]
      by_cases hq' : q' = r
      · rw [if_pos hq', if_neg fun h => hr (hq'.symm.trans h), if_pos hq']
      · rw [if_neg hq', if_neg hq']

/-- The tree without what stands at a place. -/
def clear (fs : FileTree) (q : Place) : FileTree :=
  { fs with nodes := fs.nodes.filter (·.1 ≠ q) }

/-- **What stands at a place** after one that is not the root is cleared. -/
theorem node?_clear (fs : FileTree) (hq : q ≠ []) (q' : Place) :
    (fs.clear q).node? q' = if q' = q then none else fs.node? q' := by
  rw [node?, node?, clear, lookup_filter_ne]
  by_cases hroot : q' = []
  · rw [if_pos hroot, if_pos hroot, if_neg fun h => hq (h.symm.trans hroot)]
  · rw [if_neg hroot, if_neg hroot]

/-- A place is cleared where no directory stands, so all directories stay. -/
theorem keepsDirectories_clear (h : fs.node? q ≠ some .directory) :
    fs.KeepsDirectories (fs.clear q) where
  working := rfl
  node? q' hdir := by
    rw [node?_clear fs (ne_root h), if_neg]
    · exact hdir
    · rintro rfl
      exact h hdir

/-- A file that is there is removed. -/
theorem remove_of_locate (hlocate : fs.locate p = .ok q) {bytes : List UInt8}
    (hfile : fs.node? q = some (.file bytes)) : fs.remove p = .ok (fs.clear q) := by
  rw [remove, hlocate]
  simp only [hfile]
  rfl

/-- **A file that is removed** is taken from its place, and nothing else is. -/
theorem exists_of_remove_eq_ok (h : fs.remove p = .ok fs') :
    ∃ q, fs.locate p = .ok q ∧ fs.KeepsDirectories fs' ∧
      ∀ q', fs'.node? q' = if q' = q then none else fs.node? q' := by
  rw [remove] at h
  split at h
  · cases h
  · next q hlocate =>
    split at h
    · cases h
    · cases h
    · next bytes hfile =>
      cases h
      have hnode : fs.node? q ≠ some .directory := by simp [hfile]
      exact ⟨q, hlocate, keepsDirectories_clear hnode, node?_clear fs (ne_root hnode)⟩

/-- **Files of a directory removed** one after another: they are taken from their places, and
nothing else is. -/
theorem exists_of_foldlM_remove {names : List Text} (hlocate : fs.locate p = .ok q)
    (hnames : ∀ n ∈ names, n.IsFileName)
    (h : names.foldlM (fun fs n => fs.remove (p.join n)) fs = .ok fs') :
    fs.KeepsDirectories fs' ∧
      ∀ q', fs'.node? q' = if ∃ n ∈ names, q' = q ++ [n] then none else fs.node? q' := by
  induction names generalizing fs with
  | nil =>
    cases h
    exact ⟨.refl _, fun q' => (if_neg (by simp)).symm⟩
  | cons n names ih =>
    obtain ⟨hn, hnames⟩ := List.forall_mem_cons.mp hnames
    obtain ⟨removed, hremove, h⟩ := Except.exists_of_foldlM_cons h
    obtain ⟨place, hplace, hkeeps, hnode⟩ := exists_of_remove_eq_ok hremove
    obtain ⟨at_, hat, -, rfl⟩ := exists_of_locate_join hn hplace
    cases hlocate.symm.trans hat
    obtain ⟨hkeeps', hnode'⟩ := ih (hkeeps.locate hlocate) hnames h
    refine ⟨hkeeps.trans hkeeps', fun q' => ?_⟩
    rw [hnode', hnode]
    by_cases hq' : q' = q ++ [n]
    · simp [hq']
    · simp [hq']

/-! ## The names in a directory -/

/-- The name that a place has directly below another one. -/
def nameBelow (q r : Place) : Option Text :=
  if r.dropLast = q then r.getLast? else none

theorem nameBelow_eq_some_iff {r : Place} : nameBelow q r = some n ↔ r = q ++ [n] := by
  rw [nameBelow]
  constructor
  · intro h
    split at h
    · next hlast => rw [← hlast, List.dropLast_append_getLast? n h]
    · cases h
  · rintro rfl
    simp

/-- The names in a directory are told by the places alone. -/
theorem below_eq (fs : FileTree) (q : Place) :
    fs.below q = (fs.nodes.map (·.1)).filterMap (nameBelow q) := by
  rw [List.filterMap_map]
  rfl

theorem mem_below_iff_mem : n ∈ fs.below q ↔ q ++ [n] ∈ fs.nodes.map (·.1) := by
  rw [below_eq, List.mem_filterMap]
  simp only [nameBelow_eq_some_iff, exists_eq_right]

/-- **A name is in a directory** when something stands there by the name. -/
theorem mem_below_iff : n ∈ fs.below q ↔ fs.node? (q ++ [n]) ≠ none := by
  have hnode : fs.node? (q ++ [n]) = fs.nodes.lookup (q ++ [n]) :=
    if_neg (List.append_ne_nil_of_right_ne_nil _ (List.cons_ne_nil n []))
  rw [mem_below_iff_mem, hnode, Ne, List.lookup_eq_none_iff, List.mem_map]
  simp only [bne_iff_ne, ne_eq, not_forall, not_not, exists_prop]
  exact exists_congr fun node => and_congr_right' eq_comm

theorem keys_putNode (q : Place) (m : Node) (ns : List (Place × Node)) :
    (putNode q m ns).map (·.1) =
      if q ∈ ns.map (·.1) then ns.map (·.1) else ns.map (·.1) ++ [q] := by
  induction ns with
  | nil => rfl
  | cons node ns ih =>
    obtain ⟨r, k⟩ := node
    rw [putNode, List.map_cons]
    by_cases hr : r = q
    · rw [if_pos hr, List.map_cons, if_pos (hr ▸ List.mem_cons_self), hr]
    · rw [if_neg hr, List.map_cons, ih]
      simp only [List.mem_cons, Ne.symm hr, false_or]
      split <;> rfl

/-- **The names in a directory** after something is put there. -/
theorem below_put (fs : FileTree) (q : Place) (n : Text) (m : Node) :
    (fs.put (q ++ [n]) m).below q =
      if n ∈ fs.below q then fs.below q else fs.below q ++ [n] := by
  simp only [mem_below_iff_mem]
  rw [below_eq, below_eq, put, keys_putNode]
  split
  · rfl
  · rw [List.filterMap_append, List.filterMap_cons_some (nameBelow_eq_some_iff.mpr rfl),
      List.filterMap_nil]

/-- **The names in a directory** after something is cleared there. -/
theorem below_clear (fs : FileTree) (q : Place) (n : Text) :
    (fs.clear (q ++ [n])).below q = (fs.below q).filter (· ≠ n) := by
  rw [below_eq, below_eq, List.filterMap_map, List.filterMap_map, clear, List.filterMap_filter,
    List.filter_filterMap]
  refine List.filterMap_congr fun node _ => ?_
  rw [Function.comp_apply]
  by_cases hnode : node.1 = q ++ [n]
  · simp [hnode, nameBelow_eq_some_iff.mpr rfl, Option.filter]
  · cases hname : nameBelow q node.1 with
    | none => simp
    | some k =>
      have hk : k ≠ n := by
        rintro rfl
        exact hnode (nameBelow_eq_some_iff.mp hname)
      simp [hnode, hk, Option.filter]

/-- No name stands twice in a directory because something is put there. -/
theorem nodup_below_put (h : (fs.below q).Nodup) (n : Text) (m : Node) :
    ((fs.put (q ++ [n]) m).below q).Nodup := by
  rw [below_put]
  split
  · exact h
  · next hn => exact (List.perm_append_singleton n _).nodup_iff.mpr (List.nodup_cons.mpr ⟨hn, h⟩)

theorem list_eq_below (hlocate : fs.locate p = .ok q) (hdir : fs.node? q = some .directory) :
    fs.list p = fs.below q := by
  rw [list, if_pos (isDirectory_iff.mpr ⟨q, hlocate, hdir⟩), hlocate]

/-! ## Paths that are none -/

/-- A walk fails for other reasons. -/
theorem foldlM_step_ne_zeroCharacter (names : List Text) (start : Place) :
    names.foldlM fs.step start ≠ .error .zeroCharacter := by
  induction names generalizing start with
  | nil =>
    intro h
    cases h
  | cons name names ih =>
    rw [List.foldlM_cons]
    cases hstep : fs.step start name with
    | ok next => exact ih next
    | error r =>
      intro h
      cases h
      rw [step.eq_def] at hstep
      split at hstep
      · cases hstep
      · cases hstep
      · split at hstep
        · cases hstep
        · split at hstep <;> cases hstep

/-- **A path with a zero character** is none, and every other one is. -/
theorem locate_eq_zeroCharacter_iff (fs : FileTree) :
    fs.locate p = .error .zeroCharacter ↔ ∃ n ∈ p.names, '\x00' ∈ n := by
  have hzero : p.names.any (·.contains ['\x00']) = true ↔ ∃ n ∈ p.names, '\x00' ∈ n := by
    rw [List.any_eq_true]
    simp only [contains_iff_isInfix, List.singleton_infix_iff]
  rw [locate, ← hzero]
  split
  · next h => simp only [h]
  · next h => simp [h, foldlM_step_ne_zeroCharacter]

/-- A file at such a path is not read, for that reason. -/
theorem read_eq_zeroCharacter_iff {fault : FileFault} :
    fs.read p = .error fault ∧ fault.reason = .zeroCharacter ↔
      fault = ⟨.zeroCharacter, p⟩ ∧ ∃ n ∈ p.names, '\x00' ∈ n := by
  rw [← locate_eq_zeroCharacter_iff fs, read]
  cases fs.locate p with
  | error r =>
    constructor
    · rintro ⟨h, hreason⟩
      cases h
      cases hreason
      exact ⟨rfl, rfl⟩
    · rintro ⟨rfl, hr⟩
      cases hr
      exact ⟨rfl, rfl⟩
  | ok q =>
    constructor
    · rintro ⟨h, hreason⟩
      dsimp only at h
      split at h
      · cases h
        cases hreason
      · cases h
        cases hreason
      · cases h
    · rintro ⟨-, h⟩
      cases h

/-! ## Texts -/

theorem readText_eq_file_iff {fault : FileFault} :
    fs.readText p = .error (.file fault) ↔ fs.read p = .error fault := by
  rw [readText]
  cases fs.read p with
  | error f => simp
  | ok bytes => cases h : ofUtf8 bytes <;> simp [h]

theorem readText_eq_undecodable_iff {fault : DecodeFault} :
    fs.readText p = .error (.undecodable fault) ↔
      ∃ bytes, fs.read p = .ok bytes ∧ ofUtf8 bytes = .error fault := by
  rw [readText]
  cases fs.read p with
  | error f => simp
  | ok bytes => cases h : ofUtf8 bytes <;> simp [h]

end FileTree

end Roleplay
