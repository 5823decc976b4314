import Roleplay.Proofs.Files.Tree
import Roleplay.Proofs.Settings.Stored
import Roleplay.Settings.File

/-!
# Updates of the settings file

An update reads the file, puts the changes over the settings of its purpose, and writes the whole
document again. What it answers is what is read from then on: the file that is written holds the
document, the document holds the settings as they are stored, and stored settings are read as they
were. The members of the other purposes are put back as they were read, and an update that is made
again with the same changes finds everything as it will leave it.

Nothing is written before all checks have passed, so a failure of the changed settings leaves the
tree as it was.

## Main definitions

* `SettingsFile.Holds`: what a file holds
* `SettingsFile.document`: the document that an update writes
* `SettingsFile.Outcome`: what an update comes to

## Main results

* `SettingsFile.outcome_update`: every way that an update may end
* `SettingsFile.changed_again`, `SettingsFile.settingsIn_put`: changed settings are changed no
  further by the same changes, and are the settings of the document that they are put into
* `SettingsFile.sound_document`, `SettingsFile.holds_of_writeText`: the document is read back from
  the file
* `SettingsFile.update_durable`: updates are durable, local and atomic
-/

namespace Roleplay.SettingsFile

open Text

variable {f : SettingsFile} {fs fs' : FileTree} {word : Text} {changes ms : Members} {s : Settings}

/-! ## What a file holds -/

/-- **What a file holds**: nothing when it cannot be read, otherwise the members of its document. -/
inductive Holds (f : SettingsFile) (fs : FileTree) : Members → Prop
  | missing {reason : FileReason} (h : fs.readText f.path = .error (.file ⟨reason, f.path⟩))
      (hreason : reason ≠ .zeroCharacter) : Holds f fs []
  | document {t : Text} {ms : Members} (ht : fs.readText f.path = .ok t)
      (hms : Json.read t = .ok (.obj ms)) : Holds f fs ms

/-- The members that it holds are read. -/
theorem Holds.read_eq (h : f.Holds fs ms) : f.read fs = .ok ms := by
  cases h with
  | missing h hreason =>
    rw [read, h]
    exact if_neg hreason
  | document ht hms =>
    rw [read, ht]
    simp only [membersOf, hms]

theorem Holds.sound (h : f.Holds fs ms) : (Json.obj ms).Sound := by
  cases h with
  | missing _ _ => exact .obj List.nodup_nil fun _ hm => absurd hm List.not_mem_nil
  | document _ hms => exact Json.sound_of_read hms

/-- The directory of the file, and its name. -/
theorem path_eq (f : SettingsFile) :
    f.path = ⟨f.directory.slashes, f.directory.names ++ ["llm-settings.json".toList]⟩ := by
  have hname : Path.ofText "llm-settings.json" = ⟨0, ["llm-settings.json"]⟩ := by decide
  rw [path, Path.join, hname]
  rfl

/-! ## What an update comes to -/

/-- **The document that an update writes**: that of the file, with the member of the purpose
replaced. -/
def document (ms : Members) (word : Text) (s : Settings) : Json :=
  .obj (Entries.put ms word (.obj s.stored))

/-- **What an update comes to**, step by step. Everything before the directory is made leaves the
tree as it is. -/
inductive Outcome (f : SettingsFile) (fs : FileTree) (word : Text) (changes : Members) :
    FileTree × Except Failure Settings → Prop
  | unread {e : Failure} (h : f.read fs = .error e) : Outcome f fs word changes (fs, .error e)
  | unsettled {ms : Members} {e : Failure} (hread : f.read fs = .ok ms)
      (h : settingsIn ms word = .error e) : Outcome f fs word changes (fs, .error e)
  | unchanged {ms : Members} {current : Settings} {e : Failure} (hread : f.read fs = .ok ms)
      (hcurrent : settingsIn ms word = .ok current) (h : changed current changes = .error e) :
      Outcome f fs word changes (fs, .error e)
  | unplaced {fault : FileFault} (h : fs.makeDirectories f.directory = .error fault) :
      Outcome f fs word changes (fs, .error (.file fault))
  | unwritable {made : FileTree} (h : fs.makeDirectories f.directory = .ok made) :
      Outcome f fs word changes (made, .error (.numeral .notWritable))
  | unwritten {made : FileTree} {fault : FileFault}
      (h : fs.makeDirectories f.directory = .ok made) :
      Outcome f fs word changes (made, .error (.file fault))
  | written {ms : Members} {current s : Settings} {made fs' : FileTree}
      (hread : f.read fs = .ok ms) (hcurrent : settingsIn ms word = .ok current)
      (hchanged : changed current changes = .ok s)
      (hmade : fs.makeDirectories f.directory = .ok made)
      (hwritable : (document ms word s).isWritable = true)
      (hwrite : made.writeText f.path (Json.write .indented (document ms word s)) = .ok fs') :
      Outcome f fs word changes (fs', .ok s)

theorem outcome_update (f : SettingsFile) (fs : FileTree) (word : Text) (changes : Members) :
    f.Outcome fs word changes (f.update fs word changes) := by
  simp only [update, bind, Except.bind, pure, Except.pure]
  cases hread : f.read fs with
  | error e => exact .unread hread
  | ok ms =>
    dsimp only
    cases hcurrent : settingsIn ms word with
    | error e => exact .unsettled hread hcurrent
    | ok current =>
      dsimp only
      cases hchanged : changed current changes with
      | error e => exact .unchanged hread hcurrent hchanged
      | ok s =>
        dsimp only
        cases hmade : fs.makeDirectories f.directory with
        | error fault => exact .unplaced hmade
        | ok made =>
          dsimp only
          rw [← document]
          by_cases hwritable : (document ms word s).isWritable = true
          · rw [if_neg (by simp [hwritable])]
            cases hwrite : made.writeText f.path (Json.write .indented (document ms word s)) with
            | error fault => exact .unwritten hmade
            | ok fs' => exact .written hread hcurrent hchanged hmade hwritable hwrite
          · rw [if_pos (by simpa using hwritable)]
            exact .unwritable hmade

/-- An update answers when its steps do. -/
theorem update_eq_ok {current : Settings} {made : FileTree} (hread : f.read fs = .ok ms)
    (hcurrent : settingsIn ms word = .ok current) (hchanged : changed current changes = .ok s)
    (hmade : fs.makeDirectories f.directory = .ok made)
    (hwritable : (document ms word s).isWritable = true)
    (hwrite : made.writeText f.path (Json.write .indented (document ms word s)) = .ok fs') :
    f.update fs word changes = (fs', .ok s) := by
  rw [document] at hwritable hwrite
  simp only [update, bind, Except.bind, pure, Except.pure, hread, hcurrent, hchanged, hmade,
    hwritable, hwrite]
  rfl

/-! ## Settings in the document -/

theorem changed_eq_ok_iff {current : Settings} :
    changed current changes = .ok s ↔ s.ReadFrom (Entries.merge current.stored
      (Entries.ofList (changes.map fun (k, v) => (Settings.storedName k, v)))) := by
  rw [changed, ← Settings.ofJson_eq_valid_iff]
  cases Settings.ofJson _ <;> simp [Checked.toExcept]

/-- Changed settings are invalid, or there are such. -/
theorem exists_fields_of_changed {current : Settings} {e : Failure}
    (h : changed current changes = .error e) : ∃ fields, e = .invalid fields := by
  rw [changed] at h
  cases hread : Settings.ofJson (.obj (Entries.merge current.stored
      (Entries.ofList (changes.map fun (k, v) => (Settings.storedName k, v))))) with
  | valid s =>
    rw [hread] at h
    cases h
  | invalid fields =>
    rw [hread] at h
    cases h
    exact ⟨_, rfl⟩

/-- **The same changes** give the settings again. -/
theorem changed_again {current : Settings} (h : changed current changes = .ok s) :
    changed s changes = .ok s :=
  changed_eq_ok_iff.mpr <| (changed_eq_ok_iff.mp h).merge_again (Entries.nodup_keys_ofList _)
    (Settings.underStoredNames_ofList changes) current.underStoredNames_stored

/-- The purpose of settings that are had is known. -/
theorem exists_purpose_of_settingsIn (h : settingsIn ms word = .ok s) :
    ∃ p, Purpose.ofWord? word = some p := by
  rw [settingsIn] at h
  cases hp : Purpose.ofWord? word with
  | none =>
    rw [hp] at h
    cases h
  | some p => exact ⟨p, rfl⟩

/-- **Settings in a document** are the defaults, or are read from what is stored over the members of
their purpose. -/
theorem settingsIn_eq_ok {p : Purpose} (hp : Purpose.ofWord? word = some p)
    (h : settingsIn ms word = .ok s) :
    s = p.defaults ∨ ∃ own, ms.get? word = some (.obj own) ∧
      s.ReadFrom (Entries.merge p.ownMembers own) := by
  simp only [settingsIn, hp] at h
  split at h
  · cases h
    exact .inl rfl
  · split at h
    · next own hown =>
      have hget : ms.get? word = some (.obj own) :=
        Members.get?_eq_some_of_get hown Json.noConfusion
      split at h
      · next hvalid =>
        cases h
        exact .inr ⟨own, hget, Settings.ofJson_eq_valid_iff.mp hvalid⟩
      · cases h
        exact .inl rfl
    · cases h

/-- **Settings that were put into a document** are the settings in it. -/
theorem settingsIn_put {p : Purpose} {from_ : Members} (hp : Purpose.ofWord? word = some p)
    (h : s.ReadFrom from_) :
    settingsIn (Entries.put ms word (.obj s.stored)) word = .ok s := by
  have hget : Members.get (Entries.put ms word (.obj s.stored)) word = .obj s.stored := by
    rw [Members.get, Entries.get?_put_self]
    rfl
  have htruthy : (Json.obj s.stored).isTruthy = true := rfl
  have hvalid := Settings.ofJson_eq_valid_iff.mpr (h.merge_stored p)
  simp only [settingsIn, hp, hget, htruthy, hvalid]
  rfl

/-- **Settings in a document** have their binary numbers in the one form that these have there. -/
theorem canonical_of_settingsIn (hms : (Json.obj ms).Sound) (h : settingsIn ms word = .ok s) :
    s.Canonical := by
  obtain ⟨p, hp⟩ := exists_purpose_of_settingsIn h
  rcases settingsIn_eq_ok hp h with rfl | ⟨own, hown, hfrom⟩
  · exact Settings.canonical_defaults p
  · have hsound : (Json.obj own).Sound := by
      cases hms with
      | obj _ hparts => exact hparts _ (Entries.mem_of_get?_eq_some hown)
    exact hfrom.canonical ((Settings.canonical_ownMembers p).merge
      (Members.canonical_of_sound hsound))

/-- So have changed settings, when the changes are such. -/
theorem canonical_of_changed {current : Settings} (hcurrent : current.Canonical)
    (hchanges : changes.Canonical) (h : changed current changes = .ok s) : s.Canonical :=
  (changed_eq_ok_iff.mp h).canonical
    (hcurrent.stored.merge (Settings.canonical_ofList hchanges))

/-! ## What is written -/

/-- **A document that is written** is one that can be read. -/
theorem sound_document (hms : (Json.obj ms).Sound) (hs : s.Canonical)
    (hwritable : (document ms word s).isWritable = true) : (document ms word s).Sound := by
  rw [document, Json.isWritable_obj_iff] at hwritable
  have hown := hwritable _ (Entries.mem_of_get?_eq_some (Entries.get?_put_self ms word _))
  cases hms with
  | obj hnodup hparts =>
    refine .obj (Entries.nodup_keys_put hnodup word _) fun m hm => ?_
    rcases Entries.mem_put hm with hold | rfl
    · exact hparts m hold
    · exact hs.sound_stored (Json.isWritable_obj_iff.mp hown)

/-- **The document is read back** from the file. -/
theorem holds_of_writeText {made : FileTree} {members : Members} (hsound : (Json.obj members).Sound)
    (hwrite : made.writeText f.path (Json.write .indented (.obj members)) = .ok fs') :
    f.Holds fs' members :=
  .document (FileTree.readText_writeText hwrite (Json.notMem_write_indented hsound)).1
    (Json.read_write_indented hsound)

/-- The directory of a file that was written is there. -/
theorem isDirectory_of_writeText {made : FileTree} {t : Text}
    (hwrite : made.writeText f.path t = .ok fs') : fs'.isDirectory f.directory = true := by
  obtain ⟨q, hlocate, hnode, rfl⟩ := FileTree.exists_of_write_eq_ok hwrite
  rw [path_eq] at hlocate
  exact (FileTree.keepsDirectories_put hnode _).isDirectory (FileTree.isDirectory_of_locate hlocate)

/-- **What an update leaves**: the document in the file, for which the same update changes
nothing. -/
theorem holds_and_update_again {current : Settings} {made : FileTree} (hms : (Json.obj ms).Sound)
    (hchanges : changes.Canonical) (hcurrent : settingsIn ms word = .ok current)
    (hchanged : changed current changes = .ok s)
    (hwritable : (document ms word s).isWritable = true)
    (hwrite : made.writeText f.path (Json.write .indented (document ms word s)) = .ok fs') :
    f.Holds fs' (Entries.put ms word (.obj s.stored)) ∧ f.get fs' word = .ok s ∧
      f.update fs' word changes = (fs', .ok s) := by
  have hsound := sound_document hms
    (canonical_of_changed (canonical_of_settingsIn hms hcurrent) hchanges hchanged) hwritable
  have hholds := holds_of_writeText hsound hwrite
  obtain ⟨p, hp⟩ := exists_purpose_of_settingsIn hcurrent
  have hsettings : settingsIn (Entries.put ms word (.obj s.stored)) word = .ok s :=
    settingsIn_put hp (changed_eq_ok_iff.mp hchanged)
  -- the second document is the first one
  have hdocument : document (Entries.put ms word (.obj s.stored)) word s = document ms word s := by
    rw [document, document, Entries.put_put_self]
  refine ⟨hholds, ?_, ?_⟩
  · rw [get, hholds.read_eq]
    exact hsettings
  · refine update_eq_ok hholds.read_eq hsettings (changed_again hchanged)
      (FileTree.makeDirectories_eq_self (isDirectory_of_writeText hwrite)) ?_ ?_
    · rw [hdocument]
      exact hwritable
    · rw [hdocument]
      exact (FileTree.readText_writeText hwrite (Json.notMem_write_indented hsound)).2

/-- Settings are had from a document that has an object for a known purpose, or nothing. -/
theorem exists_settingsIn {p : Purpose} (hp : Purpose.ofWord? word = some p)
    (hown : ms.get word = .null ∨ ∃ own, ms.get word = .obj own) :
    ∃ s, settingsIn ms word = .ok s := by
  simp only [settingsIn, hp]
  split
  · exact ⟨_, rfl⟩
  · next htruthy =>
    rcases hown with hnull | ⟨own, hobj⟩
    · rw [hnull] at htruthy
      exact absurd rfl htruthy
    · rw [hobj]
      dsimp only
      split
      · exact ⟨_, rfl⟩
      · exact ⟨_, rfl⟩

/-- **Updates are durable, local and atomic.** When an update answers settings, then these are read
from then on, all other members of the document are what they were, and the same update answers them
again. When the changed settings fail a check, nothing is changed. Other failures, when the file
holds an object for the purpose or nothing, are those of the tree, and of a number that is too long
to be written. -/
theorem update_durable (hms : f.Holds fs ms) (hchanges : changes.Canonical) :
    (∀ fs' s, f.update fs word changes = (fs', .ok s) →
      f.get fs' word = .ok s ∧
      (∃ ms', f.Holds fs' ms' ∧ ms'.get? word = some (.obj s.stored) ∧
        ∀ k, k ≠ word → ms'.get? k = ms.get? k) ∧
      f.update fs' word changes = (fs', .ok s)) ∧
    (∀ fs' fields, f.update fs word changes = (fs', .error (.invalid fields)) → fs' = fs) ∧
    (∀ p, Purpose.ofWord? word = some p →
      (ms.get word = .null ∨ ∃ own, ms.get word = .obj own) →
      ∀ fs' e, f.update fs word changes = (fs', .error e) →
        (∃ fields, e = .invalid fields) ∨ (∃ fault, e = .file fault) ∨
          e = .numeral .notWritable) := by
  have houtcome := outcome_update f fs word changes
  refine ⟨fun fs' s h => ?_, fun fs' fields h => ?_, fun p hp hown fs' e h => ?_⟩
  · -- settings are answered by the last step only, once the document is written
    rw [h] at houtcome
    cases houtcome with
    | written hread hcurrent hchanged _ hwritable hwrite =>
      cases hms.read_eq.symm.trans hread
      obtain ⟨hholds, hget, hagain⟩ :=
        holds_and_update_again hms.sound hchanges hcurrent hchanged hwritable hwrite
      exact ⟨hget, ⟨_, hholds, Entries.get?_put_self ms word _,
        fun k hk => Entries.get?_put_of_ne ms hk _⟩, hagain⟩
  · -- a failure with fields comes before the directory is made
    rw [h] at houtcome
    cases houtcome <;> rfl
  · obtain ⟨current, hcurrent⟩ := exists_settingsIn hp hown
    rw [h] at houtcome
    cases houtcome with
    | unread hread => cases hms.read_eq.symm.trans hread
    | unsettled hread hfail =>
      cases hms.read_eq.symm.trans hread
      cases hcurrent.symm.trans hfail
    | unchanged _ _ hfail => exact .inl (exists_fields_of_changed hfail)
    | unplaced _ => exact .inr (.inl ⟨_, rfl⟩)
    | unwritable _ => exact .inr (.inr rfl)
    | unwritten _ => exact .inr (.inl ⟨_, rfl⟩)

/-- **A change under its own name**, in a file that stores the setting under the other one and holds
more: the other member is kept, and so is the setting that was not changed. -/
theorem update_durable_named :
    let f : SettingsFile := ⟨.here⟩
    let own : Members := [("maxTokens", .int 100), ("topP", .int 1)]
    let ms : Members := [("chat", .obj own), ("note", .null)]
    let fs := FileTree.empty.put ["work", "llm-settings.json"]
      (.file (Json.write .indented (.obj ms)).utf8)
    let s : Settings := { Purpose.chat.defaults with maxTokens := 300 }
    ∃ fs', f.update fs "chat" [("max_tokens", .str "300")] = (fs', .ok s) ∧
      f.get fs' "chat" = .ok s ∧ ∃ ms', f.Holds fs' ms' ∧ ms'.get? "note" = some .null := by
  intro f own ms fs s
  have hown : (Json.obj own).Sound := by
    refine .obj (by decide) (List.forall_mem_cons.mpr ⟨?_, List.forall_mem_singleton.mpr ?_⟩)
    · exact Json.sound_int (by decide +kernel)
    · exact Json.sound_int (by decide +kernel)
  have hms : (Json.obj ms).Sound :=
    .obj (by decide) (List.forall_mem_cons.mpr ⟨hown, List.forall_mem_singleton.mpr .null⟩)
  have hwrite : FileTree.empty.writeText f.path (Json.write .indented (.obj ms)) = .ok fs := rfl
  have hholds : f.Holds fs ms := holds_of_writeText hms hwrite
  have hcurrent : settingsIn ms "chat" = .ok { Purpose.chat.defaults with maxTokens := 100 } := rfl
  have hchanged : changed { Purpose.chat.defaults with maxTokens := 100 }
      [("max_tokens", .str "300")] = .ok s := rfl
  have hchanges : Members.Canonical [("max_tokens", .str "300")] := by
    intro m hm x hx
    rw [List.mem_singleton.mp hm] at hx
    cases hx
  have hupdate := update_eq_ok hholds.read_eq hcurrent hchanged
    (FileTree.makeDirectories_eq_self (by decide)) (by decide +kernel) rfl
  obtain ⟨hget, ⟨ms', hholds', -, hkeep⟩, -⟩ := (update_durable hholds hchanges).1 _ s hupdate
  exact ⟨_, hupdate, hget, ms', hholds', (hkeep "note" (by decide)).trans rfl⟩

end Roleplay.SettingsFile
