import Roleplay.Proofs.Json.Fields
import Roleplay.Proofs.Json.Written
import Roleplay.Settings

/-!
# Stored settings

Settings are stored under one name each, and what is not set is left out. Changes are brought to the
same names before they are put over what is stored. So a setting is read from the member of one
name: from a change where there is one, otherwise from what was stored. Every value that a reader
gives is given again when it is stored and read, since the readers take their own kind as it is, and
what is left out has nothing as its default. Therefore the members that settings are stored as can
take the place of those that they were read from.

## Main definitions

* `Members.UnderStoredNames`: members under no other name of a setting
* `Settings.ReadFrom`: settings as they are read, field by field
* `Members.Canonical`, `Settings.Canonical`: binary numbers in their one form

## Main results

* `Settings.ofJson_eq_valid_iff`: when members are read as settings
* `Settings.ReadFrom.stored`: settings that hold are read from what they are stored as
* `Settings.ReadFrom.merge_stored`, `Settings.ReadFrom.merge_again`: stored settings over the
  members of a purpose, and the same changes over stored settings
* `Settings.Canonical.sound_stored`: stored settings that can be written are a document
-/

namespace Roleplay

/-! ## Names -/

/-- **Members under stored names**: none has the own name of a setting that is stored by another. -/
def Members.UnderStoredNames (ms : Members) : Prop :=
  ∀ p ∈ Settings.storedNames, ms.get? p.1 = none

instance (ms : Members) : Decidable ms.UnderStoredNames :=
  decidable_of_iff (∀ p ∈ Settings.storedNames, (ms.get? p.1).isNone) (by
    simp only [Option.isNone_iff_eq_none, Members.UnderStoredNames])

theorem Members.UnderStoredNames.get?_eq_none {ms : Members} (h : ms.UnderStoredNames)
    {names : List Text} (hnames : ∀ k ∈ names, k ∈ Settings.storedNames.map (·.1)) :
    ∀ k ∈ names, ms.get? k = none := by
  intro k hk
  obtain ⟨p, hp, rfl⟩ := List.mem_map.mp (hnames k hk)
  exact h p hp

namespace Settings

variable {s : Settings} {ms : Members}

/-- The name that a setting is stored by is no other name of one. -/
theorem storedName_ne (name : Text) : ∀ p ∈ storedNames, storedName name ≠ p.1 := by
  have hstored : ∀ q ∈ storedNames, ∀ p ∈ storedNames, q.2 ≠ p.1 := by decide
  intro p hp
  rw [storedName]
  cases h : storedNames.lookup name with
  | none =>
    rintro rfl
    exact Entries.get?_eq_none_iff.mp h (List.mem_map_of_mem hp)
  | some stored => exact hstored _ (Entries.mem_of_get?_eq_some h) p hp

/-- **Changes are brought** to stored names. -/
theorem underStoredNames_ofList (changes : Members) :
    Members.UnderStoredNames (Entries.ofList (changes.map fun (k, v) => (storedName k, v))) := by
  intro p hp
  rw [Entries.get?_eq_none_iff, List.mem_map]
  rintro ⟨m, hm, hname⟩
  obtain ⟨c, -, rfl⟩ := List.mem_map.mp (Entries.mem_of_mem_ofList hm)
  exact storedName_ne c.1 p hp hname

/-! ## Reading -/

/-- **Settings as they are read**, field by field. -/
structure ReadFrom (s : Settings) (ms : Members) : Prop where
  provider : ms.Gives ["provider"] "openai".toList Json.asText s.provider
  model : ms.Gives ["model"] none (Checked.nullable Json.asText) s.model
  temperature : ms.Gives ["temperature"] (tenths 7) (asUpTo 2) s.temperature
  maxTokens : ms.Gives (namesOf "max_tokens") 500 asPositive s.maxTokens
  topP : ms.Gives (namesOf "top_p") (tenths 10) (asUpTo 1) s.topP
  frequencyPenalty :
    ms.Gives (namesOf "frequency_penalty") (tenths 0) Json.asNumber s.frequencyPenalty
  presencePenalty : ms.Gives (namesOf "presence_penalty") (tenths 0) Json.asNumber s.presencePenalty
  contextWindow : ms.Gives (namesOf "context_window") 8000 Json.asInteger s.contextWindow
  reasoning : ms.Gives (namesOf "reasoning_enabled") false Json.asFlag s.reasoning
  user : ms.Gives (namesOf "user_id") none (Checked.nullable Json.asInteger) s.user

/-- **When a document is read as settings**: when every field is. -/
theorem ofJson_eq_valid_iff : ofJson (.obj ms) = .valid s ↔ s.ReadFrom ms := by
  constructor
  · intro h
    -- the checks stand one around the other, the last field outermost
    obtain ⟨_, _, h₉, huser, rfl⟩ := Checked.seq_eq_valid_iff.mp h
    obtain ⟨_, _, h₈, hreasoning, rfl⟩ := Checked.seq_eq_valid_iff.mp h₉
    obtain ⟨_, _, h₇, hwindow, rfl⟩ := Checked.seq_eq_valid_iff.mp h₈
    obtain ⟨_, _, h₆, hpresence, rfl⟩ := Checked.seq_eq_valid_iff.mp h₇
    obtain ⟨_, _, h₅, hfrequency, rfl⟩ := Checked.seq_eq_valid_iff.mp h₆
    obtain ⟨_, _, h₄, htop, rfl⟩ := Checked.seq_eq_valid_iff.mp h₅
    obtain ⟨_, _, h₃, hmax, rfl⟩ := Checked.seq_eq_valid_iff.mp h₄
    obtain ⟨_, _, h₂, htemperature, rfl⟩ := Checked.seq_eq_valid_iff.mp h₃
    obtain ⟨_, _, h₁, hmodel, rfl⟩ := Checked.seq_eq_valid_iff.mp h₂
    obtain ⟨_, hprovider, rfl⟩ := Checked.map_eq_valid_iff.mp h₁
    exact ⟨hprovider, hmodel, htemperature, hmax, htop, hfrequency, hpresence, hwindow, hreasoning,
      huser⟩
  · rintro ⟨hprovider, hmodel, htemperature, hmax, htop, hfrequency, hpresence, hwindow, hreasoning,
      huser⟩
    rw [Members.Gives] at *
    rw [ofJson, Checked.object, hprovider, hmodel, htemperature, hmax, htop, hfrequency, hpresence,
      hwindow, hreasoning, huser]
    rfl

/-- Settings that are read from two places are read from a third, when every field is. The names of a
field behind the first are own names of settings that are stored by another. -/
theorem ReadFrom.combine {ms₁ ms₂ : Members} (h₁ : s.ReadFrom ms₁) (h₂ : s.ReadFrom ms₂)
    (hfield : ∀ {α : Type} {name : Text} {others : List Text} {default a : α}
      {read : Json → Checked α}, (∀ k ∈ others, k ∈ storedNames.map (·.1)) →
      ms₁.Gives (name :: others) default read a → ms₂.Gives (name :: others) default read a →
        ms.Gives (name :: others) default read a) : s.ReadFrom ms where
  provider := hfield (by decide) h₁.provider h₂.provider
  model := hfield (by decide) h₁.model h₂.model
  temperature := hfield (by decide) h₁.temperature h₂.temperature
  maxTokens := hfield (by decide) h₁.maxTokens h₂.maxTokens
  topP := hfield (by decide) h₁.topP h₂.topP
  frequencyPenalty := hfield (by decide) h₁.frequencyPenalty h₂.frequencyPenalty
  presencePenalty := hfield (by decide) h₁.presencePenalty h₂.presencePenalty
  contextWindow := hfield (by decide) h₁.contextWindow h₂.contextWindow
  reasoning := hfield (by decide) h₁.reasoning h₂.reasoning
  user := hfield (by decide) h₁.user h₂.user

/-! ## What settings are stored as -/

/-- The names that settings are stored by, in their order. -/
def names : List Text :=
  ["provider", "model", "temperature", "maxTokens", "topP", "frequencyPenalty", "presencePenalty",
    "contextWindow", "reasoningEnabled", "userId"]

theorem keys_stored_sublist (s : Settings) : (s.stored.map (·.1)).Sublist names :=
  List.filter_sublist.map Prod.fst

theorem nodup_keys_stored (s : Settings) : (s.stored.map (·.1)).Nodup :=
  s.keys_stored_sublist.nodup (by decide)

theorem get?_stored_of_notMem (s : Settings) {k : Text} (h : k ∉ names) : s.stored.get? k = none :=
  Entries.get?_eq_none_iff.mpr fun hk => h (s.keys_stored_sublist.subset hk)

theorem underStoredNames_stored (s : Settings) : s.stored.UnderStoredNames := by
  have hnames : ∀ p ∈ storedNames, p.1 ∉ names := by decide
  exact fun p hp => s.get?_stored_of_notMem (hnames p hp)

/-- A model that is not set is left out. -/
theorem get?_stored_model (s : Settings) : s.stored.get? "model" = s.model.map .str := by
  refine (Entries.get?_filter_of_nodup ?_ _ _).trans ?_
  · exact show names.Nodup by decide
  · cases s.model <;> rfl

/-- So is a user that is not set. -/
theorem get?_stored_user (s : Settings) : s.stored.get? "userId" = s.user.map .int := by
  refine (Entries.get?_filter_of_nodup ?_ _ _).trans ?_
  · exact show names.Nodup by decide
  · cases s.user <;> rfl

/-- **Settings that hold are read** from what they are stored as. -/
theorem ReadFrom.stored (h : s.ReadFrom ms) : s.ReadFrom s.stored where
  provider := .of_get? (Entries.get?_filter rfl rfl) rfl
  model := by
    rw [Members.Gives.iff_elim (s.underStoredNames_stored.get?_eq_none (by decide)),
      get?_stored_model]
    cases s.model <;> rfl
  temperature := .of_get? (Entries.get?_filter rfl rfl)
    (Checked.ensure_eq_valid_iff.mpr ⟨rfl, h.temperature.ensure (by decide +kernel)⟩)
  maxTokens := .of_get? (Entries.get?_filter rfl rfl)
    (Checked.ensure_eq_valid_iff.mpr ⟨rfl, h.maxTokens.ensure rfl⟩)
  topP := .of_get? (Entries.get?_filter rfl rfl)
    (Checked.ensure_eq_valid_iff.mpr ⟨rfl, h.topP.ensure (by decide +kernel)⟩)
  frequencyPenalty := .of_get? (Entries.get?_filter rfl rfl) rfl
  presencePenalty := .of_get? (Entries.get?_filter rfl rfl) rfl
  contextWindow := .of_get? (Entries.get?_filter rfl rfl) rfl
  reasoning := .of_get? (Entries.get?_filter rfl rfl) rfl
  user := by
    refine (Members.Gives.iff_elim (s.underStoredNames_stored.get?_eq_none (by decide))).mpr ?_
    rw [show storedName "user_id" = "userId".toList from rfl, get?_stored_user]
    cases s.user <;> rfl

theorem underStoredNames_ownMembers (p : Purpose) : p.ownMembers.UnderStoredNames := by
  cases p <;> exact of_decide_eq_true rfl

/-- The members that a purpose sets are always stored. -/
theorem get?_ownMembers_eq_none (s : Settings) (p : Purpose) {k : Text}
    (h : s.stored.get? k = none) : p.ownMembers.get? k = none := by
  have htemperature : s.stored.get? "temperature" = some (.float s.temperature) :=
    Entries.get?_filter rfl rfl
  have hmax : s.stored.get? "maxTokens" = some (.int s.maxTokens) := Entries.get?_filter rfl rfl
  have hwindow : s.stored.get? "contextWindow" = some (.int s.contextWindow) :=
    Entries.get?_filter rfl rfl
  rw [Entries.get?_eq_none_iff]
  intro hk
  have hkeys : k ∈ ["temperature".toList, "maxTokens", "contextWindow"] := by
    cases p <;> exact hk
  simp only [List.mem_cons, List.not_mem_nil, or_false] at hkeys
  rcases hkeys with rfl | rfl | rfl
  · exact nomatch h.symm.trans htemperature
  · exact nomatch h.symm.trans hmax
  · exact nomatch h.symm.trans hwindow

/-- **Stored settings over the members of their purpose** are read as the settings. -/
theorem ReadFrom.merge_stored (h : s.ReadFrom ms) (p : Purpose) :
    s.ReadFrom (Entries.merge p.ownMembers s.stored) :=
  -- no member of the purpose is seen, since what it sets is always stored
  h.stored.combine h.stored fun hothers hfield _ =>
    hfield.merge_of_default s.nodup_keys_stored (s.underStoredNames_stored.get?_eq_none hothers)
      (underStoredNames_ownMembers p |>.get?_eq_none hothers) (s.get?_ownMembers_eq_none p)

/-- **The same changes over stored settings** give the settings again. -/
theorem ReadFrom.merge_again {upper lower : Members} (hnodup : (upper.map (·.1)).Nodup)
    (hupper : upper.UnderStoredNames) (hlower : lower.UnderStoredNames)
    (h : s.ReadFrom (lower.merge upper)) : s.ReadFrom (s.stored.merge upper) :=
  -- a field is the change's where there is one, and what was stored gives it otherwise
  h.combine h.stored fun hothers hfield hstored =>
    hfield.merge_again hnodup (hupper.get?_eq_none hothers) (hlower.get?_eq_none hothers)
      (s.underStoredNames_stored.get?_eq_none hothers) hstored

end Settings

/-! ## Stored settings as documents -/

/-- **Members with binary numbers in their one form.** -/
def Members.Canonical (ms : Members) : Prop :=
  ∀ m ∈ ms, ∀ x, m.2 = .float x → x.IsCanonical

theorem Members.canonical_of_sound {ms : Members} (h : (Json.obj ms).Sound) : ms.Canonical := by
  intro m hm x hx
  cases h with
  | obj _ hparts =>
    have hfloat := hparts m hm
    rw [hx] at hfloat
    cases hfloat with
    | float hcanonical => exact hcanonical

theorem Members.Canonical.merge {lower upper : Members} (hlower : lower.Canonical)
    (hupper : upper.Canonical) : Members.Canonical (lower.merge upper) :=
  fun m hm => (Entries.mem_merge hm).elim (hlower m) (hupper m)

namespace Settings

variable {s : Settings} {ms : Members}

/-- **Settings with binary numbers in their one form.** -/
structure Canonical (s : Settings) : Prop where
  temperature : s.temperature.IsCanonical
  topP : s.topP.IsCanonical
  frequencyPenalty : s.frequencyPenalty.IsCanonical
  presencePenalty : s.presencePenalty.IsCanonical

theorem canonical_tenths (n : Nat) : (tenths n).IsCanonical :=
  Binary64.canonical_ofFraction false n (by decide)

theorem canonical_defaults (p : Purpose) : p.defaults.Canonical := by
  cases p with
  | chat => exact ⟨canonical_tenths 7, canonical_tenths 10, canonical_tenths 0, canonical_tenths 0⟩
  | decision =>
    exact ⟨canonical_tenths 3, canonical_tenths 10, canonical_tenths 0, canonical_tenths 0⟩
  | content =>
    exact ⟨canonical_tenths 8, canonical_tenths 10, canonical_tenths 0, canonical_tenths 0⟩

/-- A purpose sets one binary number, the temperature. -/
theorem canonical_ownMembers (p : Purpose) : p.ownMembers.Canonical := by
  have hfirst : ∃ n rest, p.ownMembers = ("temperature".toList, .float (tenths n)) :: rest ∧
      ∀ m ∈ rest, ∀ x, m.2 ≠ .float x := by
    cases p <;> exact ⟨_, _, rfl, by simp⟩
  obtain ⟨n, rest, hown, hrest⟩ := hfirst
  intro m hm x hx
  rw [hown] at hm
  rcases List.mem_cons.mp hm with rfl | hm
  · cases hx
    exact canonical_tenths n
  · exact absurd hx (hrest m hm x)

/-- Changes keep their binary numbers under stored names. -/
theorem canonical_ofList {changes : Members} (h : changes.Canonical) :
    Members.Canonical (Entries.ofList (changes.map fun (k, v) => (storedName k, v))) := by
  intro m hm x hx
  obtain ⟨c, hc, rfl⟩ := List.mem_map.mp (Entries.mem_of_mem_ofList hm)
  exact h c hc x hx

theorem canonical_ofInt? {i : Int} {x : Binary64} (h : Binary64.ofInt? i = some x) :
    x.IsCanonical := by
  have hcanonical := Binary64.canonical_ofFraction (i < 0) i.natAbs Nat.one_pos
  rw [Binary64.ofInt?] at h
  split at h
  · next hfinite =>
    cases h
    exact hfinite ▸ hcanonical
  · cases h

theorem canonical_of_asNumber {v : Json} {x : Binary64} (h : v.asNumber = .valid x)
    (hv : ∀ y, v = .float y → y.IsCanonical) : x.IsCanonical := by
  rw [Json.asNumber, Checked.ofOption_eq_valid_iff] at h
  cases v with
  | float y =>
    cases h
    exact hv x rfl
  | int i => exact canonical_ofInt? h
  | bool b => exact canonical_ofInt? h
  | str t => exact Json.canonical_of_float? h
  | _ => cases h

/-- A binary number that is read as a field is in its one form, when those of the document are. -/
theorem canonical_of_gives {names : List Text} {default x : Binary64}
    {read : Json → Checked Binary64}
    (hms : ms.Canonical) (hdefault : default.IsCanonical)
    (hread : ∀ {v y}, read v = .valid y → v.asNumber = .valid y)
    (h : ms.Gives names default read x) : x.IsCanonical := by
  rcases h.eq_or_exists with rfl | ⟨k, v, hv, hx⟩
  · exact hdefault
  · exact canonical_of_asNumber (hread hx) (hms _ (Entries.mem_of_get?_eq_some hv))

theorem asNumber_of_asUpTo {high : Int} {v : Json} {x : Binary64} (h : asUpTo high v = .valid x) :
    v.asNumber = .valid x :=
  (Checked.ensure_eq_valid_iff.mp h).1

theorem ReadFrom.canonical (h : s.ReadFrom ms) (hms : ms.Canonical) : s.Canonical where
  temperature := canonical_of_gives hms (canonical_tenths 7) asNumber_of_asUpTo h.temperature
  topP := canonical_of_gives hms (canonical_tenths 10) asNumber_of_asUpTo h.topP
  frequencyPenalty := canonical_of_gives hms (canonical_tenths 0) id h.frequencyPenalty
  presencePenalty := canonical_of_gives hms (canonical_tenths 0) id h.presencePenalty

/-- **What is stored of settings**: texts, whole numbers, flags, and their binary numbers. -/
theorem value_of_mem_stored {m : Text × Json} (hm : m ∈ s.stored) :
    (∃ t, m.2 = .str t) ∨ (∃ i, m.2 = .int i) ∨ (∃ b, m.2 = .bool b) ∨
      ∃ x ∈ [s.temperature, s.topP, s.frequencyPenalty, s.presencePenalty], m.2 = .float x := by
  obtain ⟨hmem, hpresent⟩ := List.mem_filter.mp hm
  simp only [List.mem_cons, List.not_mem_nil, or_false] at hmem
  rcases hmem with rfl | rfl | rfl | rfl | rfl | rfl | rfl | rfl | rfl | rfl
  · exact .inl ⟨_, rfl⟩
  · -- a model that is not set is left out
    cases hmodel : s.model with
    | none =>
      rw [hmodel] at hpresent
      cases hpresent
    | some t => exact .inl ⟨t, rfl⟩
  · exact .inr (.inr (.inr ⟨s.temperature, by simp, rfl⟩))
  · exact .inr (.inl ⟨_, rfl⟩)
  · exact .inr (.inr (.inr ⟨s.topP, by simp, rfl⟩))
  · exact .inr (.inr (.inr ⟨s.frequencyPenalty, by simp, rfl⟩))
  · exact .inr (.inr (.inr ⟨s.presencePenalty, by simp, rfl⟩))
  · exact .inr (.inl ⟨_, rfl⟩)
  · exact .inr (.inr (.inl ⟨_, rfl⟩))
  · cases huser : s.user with
    | none =>
      rw [huser] at hpresent
      cases hpresent
    | some i => exact .inr (.inl ⟨i, rfl⟩)

theorem Canonical.of_mem (h : s.Canonical) :
    ∀ x ∈ [s.temperature, s.topP, s.frequencyPenalty, s.presencePenalty], x.IsCanonical := by
  simp only [List.forall_mem_cons]
  exact ⟨h.temperature, h.topP, h.frequencyPenalty, h.presencePenalty,
    fun _ hx => absurd hx List.not_mem_nil⟩

theorem Canonical.stored (h : s.Canonical) : s.stored.Canonical := by
  intro m hm x hx
  rcases value_of_mem_stored hm with ⟨_, hv⟩ | ⟨_, hv⟩ | ⟨_, hv⟩ | ⟨y, hy, hv⟩
  all_goals
    rw [hx] at hv
    cases hv
  exact h.of_mem x hy

/-- **Stored settings that can be written** are members of a document. -/
theorem Canonical.sound_stored (h : s.Canonical)
    (hwritable : ∀ m ∈ s.stored, m.2.isWritable = true) : (Json.obj s.stored).Sound := by
  refine .obj s.nodup_keys_stored fun m hm => ?_
  have hfits := hwritable m hm
  rcases value_of_mem_stored hm with ⟨t, hv⟩ | ⟨i, hv⟩ | ⟨b, hv⟩ | ⟨x, hx, hv⟩
  all_goals rw [hv] at hfits ⊢
  · exact .str t
  · exact Json.sound_int hfits
  · exact .bool b
  · exact .float (h.of_mem x hx)

end Settings

end Roleplay
