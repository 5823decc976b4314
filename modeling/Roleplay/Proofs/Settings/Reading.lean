import Roleplay.Proofs.Files.Directory
import Roleplay.Proofs.Number.Rounding
import Roleplay.Proofs.Settings.File

/-!
# Reading the settings file

The settings of a purpose are read from whatever the file holds. A file that is missing, is no
document or is one of another kind counts as an empty one, and an entry that fails a check as none;
then the settings are the defaults of the purpose. Where the entry holds, each setting is the stored
value, under the name it is stored by or, if that is not there, under its own name, and the default
otherwise. As the members that a purpose sets itself are put below those of the entry under stored
names, a number of tokens is read under its stored name only.

Three contents are not read: bytes that are no text, a numeral that is too long to be read, and an
entry that is neither nothing nor an object.

## Main definitions

* `Settings.InRange`: settings that a model can be asked with
* `Settings.GivenBy`: settings that an entry gives over the defaults of a purpose
* `SettingsFile.Unreadable`: contents that are not read

## Main results

* `Settings.readFrom_merge_iff`: what is read from an entry over the members of a purpose
* `SettingsFile.get_eq_error_iff`: when settings are not read
* `SettingsFile.inRange_of_get`: settings that are read are in range
* `SettingsFile.get_settled`: what is read, from any content
-/

namespace Roleplay

namespace Settings

variable {s : Settings} {p : Purpose} {own ms : Members}

/-! ## Settings in range -/

/-- **Settings that a model can be asked with.** -/
structure InRange (s : Settings) : Prop where
  temperature : ∃ v, s.temperature.value? = some v ∧ 0 ≤ v ∧ v ≤ 2
  maxTokens : 0 < s.maxTokens
  topP : ∃ v, s.topP.value? = some v ∧ 0 ≤ v ∧ v ≤ 1

theorem inRange_of_within (htemperature : s.temperature.within 0 2 = true)
    (hmax : 0 < s.maxTokens) (htop : s.topP.within 0 1 = true) : s.InRange where
  temperature := by simpa using Binary64.within_iff.mp htemperature
  maxTokens := hmax
  topP := by simpa using Binary64.within_iff.mp htop

theorem inRange_defaults (p : Purpose) : p.defaults.InRange := by
  cases p <;> exact inRange_of_within (by decide +kernel) (by decide) (by decide +kernel)

/-! ## What an entry gives -/

/-- **Settings that an entry gives** over the defaults of a purpose: each is the value under the
name that it is stored by or, where there is none, under its own name, and the default otherwise.
The numbers of tokens are looked up by the names that they are stored by only. -/
structure GivenBy (s : Settings) (p : Purpose) (own : Members) : Prop where
  provider : own.Gives ["provider"] p.defaults.provider Json.asText s.provider
  model : own.Gives ["model"] p.defaults.model (Checked.nullable Json.asText) s.model
  temperature : own.Gives ["temperature"] p.defaults.temperature (asUpTo 2) s.temperature
  maxTokens : own.Gives ["maxTokens"] p.defaults.maxTokens asPositive s.maxTokens
  topP : own.Gives ["topP", "top_p"] p.defaults.topP (asUpTo 1) s.topP
  frequencyPenalty : own.Gives ["frequencyPenalty", "frequency_penalty"]
    p.defaults.frequencyPenalty Json.asNumber s.frequencyPenalty
  presencePenalty : own.Gives ["presencePenalty", "presence_penalty"]
    p.defaults.presencePenalty Json.asNumber s.presencePenalty
  contextWindow : own.Gives ["contextWindow"] p.defaults.contextWindow Json.asInteger
    s.contextWindow
  reasoning : own.Gives ["reasoningEnabled", "reasoning_enabled"] p.defaults.reasoning Json.asFlag
    s.reasoning
  user : own.Gives ["userId", "user_id"] p.defaults.user (Checked.nullable Json.asInteger) s.user

theorem GivenBy.inRange (h : s.GivenBy p own) : s.InRange :=
  inRange_of_within (h.temperature.ensure (by cases p <;> decide +kernel))
    (of_decide_eq_true (h.maxTokens.ensure (p := fun i => decide (0 < i)) (by cases p <;> rfl)))
    (h.topP.ensure (by cases p <;> decide +kernel))

/-- The names of the members that a purpose sets. -/
def ownNames : List Text :=
  ["temperature", "maxTokens", "contextWindow"]

theorem get?_ownMembers_of_notMem (p : Purpose) {k : Text} (h : k ∉ ownNames) :
    p.ownMembers.get? k = none := by
  have hkeys : p.ownMembers.map (·.1) = ownNames := by
    cases p <;> rfl
  rw [Entries.get?_eq_none_iff, hkeys]
  exact h

/-- A setting that no purpose sets itself is given by the entry, or has the one default. -/
theorem gives_merge_iff {α : Type} {names : List Text} {d d' a : α} {read : Json → Checked α}
    (hnodup : (own.map (·.1)).Nodup) (hnames : ∀ k ∈ names, k ∉ ownNames) (hd : d' = d) :
    Members.Gives (Entries.merge p.ownMembers own) names d read a ↔ own.Gives names d' read a := by
  rw [hd]
  exact Members.Gives.merge_iff_of_none hnodup fun k hk => get?_ownMembers_of_notMem p (hnames k hk)

/-- The temperature of a purpose is one. -/
theorem asUpTo_temperature (p : Purpose) :
    asUpTo 2 (.float p.defaults.temperature) = .valid p.defaults.temperature :=
  Checked.ensure_eq_valid_iff.mpr ⟨rfl, by cases p <;> decide +kernel⟩

/-- **What is read from an entry** over the members that a purpose sets. -/
theorem readFrom_merge_iff (hnodup : (own.map (·.1)).Nodup) :
    s.ReadFrom (Entries.merge p.ownMembers own) ↔ s.GivenBy p own := by
  have htemperature : p.ownMembers.get? "temperature" = some (.float p.defaults.temperature) := by
    cases p <;> rfl
  have hmax : p.ownMembers.get? "maxTokens" = some (.int p.defaults.maxTokens) := by
    cases p <;> rfl
  have hwindow : p.ownMembers.get? "contextWindow" = some (.int p.defaults.contextWindow) := by
    cases p <;> rfl
  have hpositive : asPositive (.int p.defaults.maxTokens) = .valid p.defaults.maxTokens := by
    cases p <;> rfl
  have hinteger :
      Json.asInteger (.int p.defaults.contextWindow) = .valid p.defaults.contextWindow := rfl
  have hfloat := asUpTo_temperature p
  -- three fields are read over what the purpose sets, and the others as if that were not there
  constructor
  · intro h
    exact {
      provider := (gives_merge_iff hnodup (by decide) (by cases p <;> rfl)).mp h.provider
      model := (gives_merge_iff hnodup (by decide) (by cases p <;> rfl)).mp h.model
      temperature :=
        (Members.Gives.merge_iff_of_get? hnodup htemperature hfloat).mp h.temperature
      maxTokens := (Members.Gives.merge_iff_of_get? hnodup hmax hpositive).mp h.maxTokens
      topP := (gives_merge_iff hnodup (by decide) (by cases p <;> rfl)).mp h.topP
      frequencyPenalty :=
        (gives_merge_iff hnodup (by decide) (by cases p <;> rfl)).mp h.frequencyPenalty
      presencePenalty :=
        (gives_merge_iff hnodup (by decide) (by cases p <;> rfl)).mp h.presencePenalty
      contextWindow := (Members.Gives.merge_iff_of_get? hnodup hwindow hinteger).mp h.contextWindow
      reasoning := (gives_merge_iff hnodup (by decide) (by cases p <;> rfl)).mp h.reasoning
      user := (gives_merge_iff hnodup (by decide) (by cases p <;> rfl)).mp h.user }
  · intro h
    exact {
      provider := (gives_merge_iff hnodup (by decide) (by cases p <;> rfl)).mpr h.provider
      model := (gives_merge_iff hnodup (by decide) (by cases p <;> rfl)).mpr h.model
      temperature :=
        (Members.Gives.merge_iff_of_get? hnodup htemperature hfloat).mpr h.temperature
      maxTokens := (Members.Gives.merge_iff_of_get? hnodup hmax hpositive).mpr h.maxTokens
      topP := (gives_merge_iff hnodup (by decide) (by cases p <;> rfl)).mpr h.topP
      frequencyPenalty :=
        (gives_merge_iff hnodup (by decide) (by cases p <;> rfl)).mpr h.frequencyPenalty
      presencePenalty :=
        (gives_merge_iff hnodup (by decide) (by cases p <;> rfl)).mpr h.presencePenalty
      contextWindow := (Members.Gives.merge_iff_of_get? hnodup hwindow hinteger).mpr h.contextWindow
      reasoning := (gives_merge_iff hnodup (by decide) (by cases p <;> rfl)).mpr h.reasoning
      user := (gives_merge_iff hnodup (by decide) (by cases p <;> rfl)).mpr h.user }

end Settings

namespace SettingsFile

variable {f : SettingsFile} {fs : FileTree} {p : Purpose} {own ms : Members} {s : Settings}
  {e : Failure}

/-! ## Contents that are not read -/

/-- **Contents that are not read**, and the failure of each: a path that is none, bytes that are no
text, a numeral that is too long, and an entry that is neither nothing nor an object. -/
inductive Unreadable (f : SettingsFile) (fs : FileTree) (p : Purpose) : Failure → Prop
  | path (h : ∃ n ∈ f.path.names, '\x00' ∈ n) : Unreadable f fs p (.file ⟨.zeroCharacter, f.path⟩)
  | bytes {bytes : List UInt8} {fault : DecodeFault} (hread : fs.read f.path = .ok bytes)
      (h : Text.ofUtf8 bytes = .error fault) : Unreadable f fs p (.undecodable fault)
  | numeral {t : Text} {n : Nat} {before : Text} (ht : fs.readText f.path = .ok t)
      (h : Json.read t = .error ⟨.tooManyDigits n, before⟩) :
      Unreadable f fs p (.malformed ⟨.tooManyDigits n, before⟩)
  | entry {ms : Members} {v : Json} (hms : f.Holds fs ms) (hv : ms.get? p.word = some v)
      (htruthy : v.isTruthy = true) (hkind : ∀ own, v ≠ .obj own) : Unreadable f fs p .wrongKind

/-- Members that are read, if there are any, are those of a document. -/
theorem holds_of_read (h : f.read fs = .ok ms) {k : Text} {v : Json} (hv : ms.get? k = some v) :
    f.Holds fs ms := by
  rw [read] at h
  split at h
  · next t ht =>
    rw [membersOf] at h
    split at h
    · next ms' hread =>
      cases h
      exact .document ht hread
    all_goals
      cases h
      try cases hv
  · split at h
    · cases h
    · cases h
      cases hv
  · cases h

/-- The file is not read for its path, its bytes or a numeral. -/
theorem unreadable_of_read (h : f.read fs = .error e) : f.Unreadable fs p e := by
  rw [read] at h
  split at h
  · next t ht =>
    -- a text that is no document counts as an empty one, but for a numeral
    rw [membersOf] at h
    split at h
    · cases h
    · cases h
    · next n before hread =>
      cases h
      exact .numeral ht hread
    · cases h
  · next fault hfault =>
    split at h
    · next hreason =>
      cases h
      have hzero := FileTree.read_eq_zeroCharacter_iff.mp
        ⟨FileTree.readText_eq_file_iff.mp hfault, hreason⟩
      rw [hzero.1]
      exact .path hzero.2
    · cases h
  · next fault hfault =>
    cases h
    obtain ⟨bytes, hbytes, hfault⟩ := FileTree.readText_eq_undecodable_iff.mp hfault
    exact .bytes hbytes hfault

/-- **Settings among stored members**, by the entry of their purpose: those that it gives or else
the defaults when it is an object, and the defaults when it is nothing. -/
theorem settingsIn_word (ms : Members) (p : Purpose) :
    settingsIn ms p.word = match ms.get? p.word with
      | none => .ok p.defaults
      | some (.obj own) =>
        .ok ((Settings.ofJson (.obj (Entries.merge p.ownMembers own))).toOption.getD p.defaults)
      | some v => if v.isTruthy then .error .wrongKind else .ok p.defaults := by
  have hword : Purpose.ofWord? p.word = some p := by
    cases p <;> rfl
  rw [settingsIn, hword]
  dsimp only
  cases hget : ms.get? p.word with
  | none => rw [show ms.get p.word = .null by rw [Members.get, hget]; rfl]; rfl
  | some v =>
    rw [show ms.get p.word = v by rw [Members.get, hget]; rfl]
    cases v with
    | obj own =>
      cases own with
      | nil => cases p <;> rfl
      | cons m own =>
        simp only [Json.isTruthy, List.isEmpty_cons, Bool.not_false, Bool.not_true,
          Bool.false_eq_true, if_false]
        cases Settings.ofJson (.obj (Entries.merge p.ownMembers (m :: own))) <;> rfl
    | _ => split <;> simp_all

/-- The settings of a file that can be read are those among its members. -/
theorem get_of_read (h : f.read fs = .ok ms) : f.get fs p.word = settingsIn ms p.word := by
  rw [get, h]
  rfl

theorem Unreadable.get_eq (h : f.Unreadable fs p e) : f.get fs p.word = .error e := by
  cases h with
  | path hzero =>
    obtain ⟨hread, -⟩ := FileTree.read_eq_zeroCharacter_iff.mpr ⟨rfl, hzero⟩
    rw [get, read, FileTree.readText_eq_file_iff.mpr hread]
    rfl
  | bytes hbytes hfault =>
    rw [get, read, FileTree.readText_eq_undecodable_iff.mpr ⟨_, hbytes, hfault⟩]
    rfl
  | numeral ht hread =>
    rw [get, read, ht]
    simp only [membersOf, hread]
    rfl
  | entry hms hv htruthy hkind =>
    rw [get_of_read hms.read_eq, settingsIn_word, hv]
    split
    · next h => cases h
    · next own h => exact absurd (Option.some.inj h) (hkind own)
    · next v _ h =>
      cases h
      rw [if_pos htruthy]

/-- **When settings are not read**: exactly from the contents that are not. -/
theorem get_eq_error_iff : f.get fs p.word = .error e ↔ f.Unreadable fs p e := by
  refine ⟨fun h => ?_, Unreadable.get_eq⟩
  cases hread : f.read fs with
  | error e' =>
    rw [get, hread] at h
    cases h
    exact unreadable_of_read hread
  | ok ms =>
    rw [get_of_read hread, settingsIn_word] at h
    split at h
    · cases h
    · cases h
    · next v hkind hv =>
      split at h
      · next htruthy =>
        cases h
        exact .entry (holds_of_read hread hv) hv htruthy fun own hown => hkind own hown
      · cases h

/-- The members of the entry of a purpose have names of their own. -/
theorem nodup_of_entry (hms : f.Holds fs ms) (hown : ms.get? p.word = some (.obj own)) :
    (own.map (·.1)).Nodup := by
  cases hms.sound with
  | obj _ hparts =>
    cases hparts _ (Entries.mem_of_get?_eq_some hown) with
    | obj hnodup _ => exact hnodup

/-- **Settings that are read** are the defaults, or what the entry of the purpose gives. -/
theorem givenBy_of_get (h : f.get fs p.word = .ok s) :
    s = p.defaults ∨
      ∃ ms own, f.Holds fs ms ∧ ms.get? p.word = some (.obj own) ∧ s.GivenBy p own := by
  cases hread : f.read fs with
  | error e =>
    rw [get, hread] at h
    cases h
  | ok ms =>
    rw [get_of_read hread] at h
    have hword : Purpose.ofWord? p.word = some p := by
      cases p <;> rfl
    rcases settingsIn_eq_ok hword h with rfl | ⟨own, hown, hfrom⟩
    · exact .inl rfl
    · have hms := holds_of_read hread hown
      exact .inr ⟨ms, own, hms, hown,
        (Settings.readFrom_merge_iff (nodup_of_entry hms hown)).mp hfrom⟩

/-- **Settings that are read are in range.** -/
theorem inRange_of_get (h : f.get fs p.word = .ok s) : s.InRange := by
  rcases givenBy_of_get h with rfl | ⟨_, _, -, -, hgiven⟩
  · exact Settings.inRange_defaults p
  · exact hgiven.inRange

/-- **What an entry gives is read**, and the defaults where it gives nothing. -/
theorem get_of_entry (hms : f.Holds fs ms) (hown : ms.get? p.word = some (.obj own)) :
    (∀ s : Settings, s.GivenBy p own → f.get fs p.word = .ok s) ∧
      ((∀ s : Settings, ¬ s.GivenBy p own) → f.get fs p.word = .ok p.defaults) := by
  have hnodup := nodup_of_entry hms hown
  have hget : f.get fs p.word =
      .ok ((Settings.ofJson (.obj (Entries.merge p.ownMembers own))).toOption.getD p.defaults) := by
    rw [get_of_read hms.read_eq, settingsIn_word, hown]
  rw [hget]
  constructor
  · intro s hs
    rw [Settings.ofJson_eq_valid_iff.mpr ((Settings.readFrom_merge_iff hnodup).mpr hs)]
    rfl
  · intro hnone
    cases hread : Settings.ofJson (.obj (Entries.merge p.ownMembers own)) with
    | invalid fields => rfl
    | valid s =>
      have hs := (Settings.readFrom_merge_iff hnodup).mp (Settings.ofJson_eq_valid_iff.mp hread)
      exact absurd hs (hnone s)

/-- **Settings are had from any content but a few.** They are not read exactly from the contents
that are not. Those that are read are in range, and are the defaults or what an entry gives; and
where the file holds an entry for the purpose, they are what that gives or, when it gives no
settings, the defaults. -/
theorem get_settled (f : SettingsFile) (fs : FileTree) (p : Purpose) :
    (∀ e, f.get fs p.word = .error e ↔ f.Unreadable fs p e) ∧
    (∀ s, f.get fs p.word = .ok s → s.InRange ∧
      (s = p.defaults ∨
        ∃ ms own, f.Holds fs ms ∧ ms.get? p.word = some (.obj own) ∧ s.GivenBy p own)) ∧
    ∀ ms own, f.Holds fs ms → ms.get? p.word = some (.obj own) →
      (∀ s : Settings, s.GivenBy p own → f.get fs p.word = .ok s) ∧
        ((∀ s : Settings, ¬ s.GivenBy p own) → f.get fs p.word = .ok p.defaults) :=
  ⟨fun _ => get_eq_error_iff, fun _ h => ⟨inRange_of_get h, givenBy_of_get h⟩,
    fun _ _ => get_of_entry⟩

/-- **An entry with both names of a setting**: the value under the stored name counts, and the other
is not even checked. -/
theorem get_settled_both :
    let f : SettingsFile := ⟨.here⟩
    let own : Members := [("topP", .int 0), ("top_p", .int 7), ("model", .str "small"),
      ("maxTokens", .str "300")]
    let fs := FileTree.empty.put ["work", "llm-settings.json"]
      (.file (Json.write .indented (.obj [("decision", .obj own)])).utf8)
    f.get fs "decision" = .ok { Purpose.decision.defaults with
      topP := tenths 0, model := some "small", maxTokens := 300 } := by
  intro f own fs
  have hown : (Json.obj own).Sound := by
    refine .obj (by decide) fun m hm => ?_
    simp only [own, List.mem_cons, List.not_mem_nil, or_false] at hm
    rcases hm with rfl | rfl | rfl | rfl
    · exact Json.sound_int (by decide +kernel)
    · exact Json.sound_int (by decide +kernel)
    · exact .str _
    · exact .str _
  have hms : (Json.obj [("decision", .obj own)]).Sound :=
    .obj (by decide) (List.forall_mem_singleton.mpr hown)
  have hwrite : FileTree.empty.writeText f.path
      (Json.write .indented (.obj [("decision", .obj own)])) = .ok fs := rfl
  refine ((get_settled f fs .decision).2.2 _ own (holds_of_writeText hms hwrite) rfl).1 _ ?_
  have hzero : Settings.asUpTo 1 (.int 0) = .valid (tenths 0) :=
    Checked.ensure_eq_valid_iff.mpr
      ⟨congrArg Checked.valid (by decide +kernel), by decide +kernel⟩
  exact ⟨rfl, rfl, rfl, rfl, .of_get? rfl hzero, rfl, rfl, rfl, rfl, rfl⟩

/-- **Contents that no settings are had from, or other ones**: a byte that is no text, an entry that
is a list, and a number of tokens under its own name. -/
theorem get_unsettled :
    let f : SettingsFile := ⟨.here⟩
    let holding (bytes : List UInt8) := FileTree.empty.put ["work", "llm-settings.json"]
      (.file bytes)
    let entry (v : Json) := (Json.write .indented (.obj [("chat", v)])).utf8
    f.get (holding [0xff]) "chat" =
      .error (.undecodable ⟨.utf8, 0xff, 0, 1, .invalidStart⟩) ∧
    f.get (holding (entry (.arr [.null]))) "chat" = .error .wrongKind ∧
    f.get (holding (entry (.obj [("max_tokens", .int 900)]))) "chat" =
      .ok Purpose.chat.defaults := by
  intro f holding entry
  have hholds (v : Json) (hv : v.Sound) : f.Holds (holding (entry v)) [("chat", v)] := by
    have hwrite : FileTree.empty.writeText f.path (Json.write .indented (.obj [("chat", v)])) =
        .ok (holding (entry v)) := rfl
    exact holds_of_writeText (.obj (by simp) (List.forall_mem_singleton.mpr hv)) hwrite
  refine ⟨rfl, ?_, ?_⟩
  · have hlist : (Json.arr [.null]).Sound := .arr (List.forall_mem_singleton.mpr .null)
    exact (get_of_read (p := .chat) (hholds _ hlist).read_eq).trans rfl
  · have hnumber : (Json.obj [("max_tokens", .int 900)]).Sound :=
      .obj (by decide) (List.forall_mem_singleton.mpr (Json.sound_int (by decide +kernel)))
    exact (get_of_read (p := .chat) (hholds _ hnumber).read_eq).trans rfl

end SettingsFile

end Roleplay
