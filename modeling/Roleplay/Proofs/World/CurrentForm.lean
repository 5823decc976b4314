import Roleplay.Proofs.World.Entities
import Roleplay.World.Info

/-!
# Documents in the current form

An entity in the current form holds a list of attributes. When the first entity of a document is in
that form, the document is read as it stands: each entity in the current form has exactly the
attributes of its list, whatever the other entities are. Behind a first entity in an older form the
whole document is migrated, and an entity in the current form is then rewritten as if it were an
older one that lists its `attributes`.

## Main results

* `Checked.lookup_members`: a member that was checked stands under its name
* `Entity.ofAttributes_eq_self`: distinct attributes are kept as they are
* `WorldInfo.state_ofJson_of_current`: the state of a document whose first entity is current
* `WorldInfo.ofJson_keeps_current`: entities in the current form are kept behind a current one
* `WorldInfo.ofJson_rewrites_current`: behind an older one they are not
-/

namespace Roleplay

/-- **A checked member** stands under its name. -/
theorem Checked.lookup_members {α : Type} {read : Json → Checked α} {ms : Members}
    {xs : List (Text × α)} (h : Checked.members read ms = .valid xs) {k : Text} {v : Json}
    (hk : ms.get? k = some v) : ∃ a, read v = .valid a ∧ xs.lookup k = some a := by
  induction ms generalizing xs with
  | nil => cases hk
  | cons m ms ih =>
    obtain ⟨j, w⟩ := m
    rw [Checked.members] at h
    cases hw : read w with
    | invalid fs =>
      rw [hw] at h
      cases hms : Checked.members read ms <;> rw [hms] at h <;> cases h
    | valid a =>
      rw [hw] at h
      cases hms : Checked.members read ms with
      | invalid fs => rw [hms] at h; cases h
      | valid ys =>
        rw [hms] at h
        cases h
        rw [Entries.get?, List.lookup_cons] at hk
        by_cases hkj : (k == j) = true
        · rw [hkj] at hk
          cases hk
          exact ⟨a, hw, by rw [List.lookup_cons, hkj]⟩
        · have hkj : (k == j) = false := Bool.eq_false_iff.mpr hkj
          rw [hkj] at hk
          obtain ⟨b, hb, hlookup⟩ := ih hms hk
          exact ⟨b, hb, by rw [List.lookup_cons, hkj]; exact hlookup⟩

/-- **Distinct attributes** are kept as they are. -/
theorem Entity.ofAttributes_eq_self {as : List Attribute} (h : (Entity.mk as).Distinct) :
    Entity.ofAttributes as = ⟨as⟩ := by
  -- each attribute comes behind those before it
  have hfold : ∀ bs : List Attribute, (Entity.mk (bs ++ as)).Distinct →
      as.foldl Entity.set ⟨bs⟩ = ⟨bs ++ as⟩ := by
    clear h
    induction as with
    | nil => exact fun bs _ => by rw [List.append_nil]; rfl
    | cons a as ih =>
      intro bs h
      have hnot : a.key ∉ bs.map (·.key) := by
        rw [Distinct, List.map_append, List.map_cons] at h
        intro hmem
        exact (List.nodup_append.mp h).2.2 _ hmem _ List.mem_cons_self rfl
      have hset : Entity.set ⟨bs⟩ a = ⟨bs ++ [a]⟩ := congrArg mk (setIn_of_notMem hnot)
      rw [List.foldl_cons, hset, ih (bs ++ [a]) (by rwa [List.append_assoc]), List.append_assoc]
      rfl
  exact hfold [] h

/-- **An entity in the current form**: an object that lists attributes, each of which can be read,
with distinct names. -/
structure Entity.Current (v : Json) (as : List Attribute) : Prop where
  lists : ∃ (es : Members) (xs : List Json), v = .obj es ∧
    es.get? Legacy.attributesKey = some (.arr xs) ∧
      Checked.array Attribute.ofJson (.arr xs) = .valid as
  distinct : (Entity.mk as).Distinct

theorem Entity.Current.ofJson_eq {v : Json} {as : List Attribute} (h : Entity.Current v as) :
    Entity.ofJson v = .valid ⟨as⟩ := by
  obtain ⟨es, xs, rfl, hsome, hread⟩ := h.lists
  have hfirst : es.firstOf [Legacy.attributesKey] = some (Legacy.attributesKey, .arr xs) := by
    simp [Members.firstOf, hsome]
  show (Members.optional [Legacy.attributesKey] [] (Checked.array Attribute.ofJson) es).map
    Entity.ofAttributes = _
  rw [Members.optional, hfirst]
  show ((Checked.array Attribute.ofJson (.arr xs)).under _).map Entity.ofAttributes = _
  rw [hread]
  exact congrArg Checked.valid (ofAttributes_eq_self h.distinct)

namespace WorldInfo

section Current

variable {ms state : Members}

/-- A document whose first entity is in the current form is not migrated. -/
theorem migrate_of_current (hstate : ms.get? Legacy.stateKey = some (.obj state))
    (hfirst : Legacy.isFlat state = false) : Legacy.migrate (.obj ms) = some ms := by
  simp only [Legacy.migrate, Members.get, hstate, Option.getD_some, hfirst, if_false,
    Bool.false_eq_true]

theorem firstOf_of_current (hstate : ms.get? Legacy.stateKey = some (.obj state)) :
    ms.firstOf stateKeys = some (Legacy.stateKey, .obj state) := by
  simp [Members.firstOf, stateKeys, hstate]

/-- Members with a state can be read when each of its entities can. -/
theorem ofMembers_of_state (hstate : ms.get? Legacy.stateKey = some (.obj state))
    {es : List (Text × Entity)} (hes : Checked.members Entity.ofJson state = .valid es) :
    ofMembers ms = .valid ⟨some ⟨es⟩, ms.remove Legacy.stateKey⟩ := by
  simp only [ofMembers, Members.optional, firstOf_of_current hstate, Checked.nullable,
    WorldState.ofJson, Checked.object, hes, Checked.map, Checked.under]

/-- **The state of a document** whose first entity is in the current form: its entities are read
one by one. -/
theorem state_ofJson_of_current (hstate : ms.get? Legacy.stateKey = some (.obj state))
    (hfirst : Legacy.isFlat state = false) {i : WorldInfo} (hread : ofJson (.obj ms) = .ok i) :
    ∃ es, i.state = some ⟨es⟩ ∧ Checked.members Entity.ofJson state = .valid es := by
  rw [ofJson, migrate_of_current hstate hfirst] at hread
  simp only [ofMembers, Members.optional, firstOf_of_current hstate, Checked.nullable,
    WorldState.ofJson, Checked.object] at hread
  cases hes : Checked.members Entity.ofJson state with
  | invalid fs => simp [hes, Checked.map, Checked.under] at hread
  | valid es =>
    simp only [hes, Checked.map, Checked.under, Except.ok.injEq] at hread
    exact ⟨es, by rw [← hread], rfl⟩

/-- It can be read when each entity can. -/
theorem ofJson_of_current (hstate : ms.get? Legacy.stateKey = some (.obj state))
    (hfirst : Legacy.isFlat state = false) {es : List (Text × Entity)}
    (hes : Checked.members Entity.ofJson state = .valid es) :
    ofJson (.obj ms) = .ok ⟨some ⟨es⟩, ms.remove Legacy.stateKey⟩ := by
  rw [ofJson, migrate_of_current hstate hfirst]
  simp only [ofMembers_of_state hstate hes]

end Current

/-- **Entities in the current form are kept** behind a first entity in that form, in any place and
whatever the others are. -/
theorem ofJson_keeps_current {ms state : Members}
    (hstate : ms.get? Legacy.stateKey = some (.obj state)) (hfirst : Legacy.isFlat state = false)
    {key : Text} {v : Json} {as : List Attribute} (hv : state.get? key = some v)
    (hcurrent : Entity.Current v as) {i : WorldInfo} (hread : ofJson (.obj ms) = .ok i) :
    ∃ s, i.state = some s ∧ s.find? key = some ⟨as⟩ := by
  obtain ⟨es, hi, hes⟩ := state_ofJson_of_current hstate hfirst hread
  obtain ⟨e, he, hlookup⟩ := Checked.lookup_members hes hv
  rw [hcurrent.ofJson_eq] at he
  cases he
  exact ⟨⟨es⟩, hi, hlookup⟩

/-- An entity in an older form and one without anything do not disturb those in the current one. -/
theorem ofJson_keeps_current_last :
    let mood : Attribute := ⟨"Mood", .text "calm"⟩
    let clothes : Attribute := ⟨"clothes", .list [⟨"hat", "red"⟩, ⟨"boots", []⟩]⟩
    let state : Members :=
      [("character", (Entity.mk [mood]).toJson), ("hut", .obj [("mood", .str "dark")]),
        ("inn", .obj []), ("user", (Entity.mk [clothes, mood]).toJson)]
    ∃ i, ofJson (.obj [("notes", .null), ("worldState", .obj state)]) = .ok i ∧
      Legacy.isFlat state = false ∧
      Entity.Current (Entity.mk [clothes, mood]).toJson [clothes, mood] ∧
      ∃ s, i.state = some s ∧ s.find? "user" = some ⟨[clothes, mood]⟩ := by
  intro mood clothes state
  have hcurrent : Entity.Current (Entity.mk [clothes, mood]).toJson [clothes, mood] :=
    ⟨⟨_, _, rfl, rfl, rfl⟩, by decide⟩
  obtain ⟨i, hi⟩ :
      ∃ i, ofJson (.obj [("notes", .null), ("worldState", .obj state)]) = .ok i := ⟨_, rfl⟩
  have hstate : Entries.get? (α := Json) [("notes", .null), ("worldState", .obj state)]
      Legacy.stateKey = some (.obj state) := rfl
  exact ⟨i, hi, rfl, hcurrent, ofJson_keeps_current hstate rfl rfl hcurrent hi⟩

/-- **Entities in the current form are not always kept**: behind an entity in an older form they are
taken for older ones as well. -/
theorem ofJson_rewrites_current :
    ¬ ∀ (ms state : Members) (key : Text) (v : Json) (as : List Attribute) (i : WorldInfo),
      ms.get? Legacy.stateKey = some (.obj state) → state.get? key = some v →
      Entity.Current v as → ofJson (.obj ms) = .ok i →
      ∃ s, i.state = some s ∧ s.find? key = some ⟨as⟩ := by
  intro hkeeps
  let mood : Attribute := ⟨"mood", .text "happy"⟩
  let state : Members :=
    [("user", .obj [("mood", .str "calm")]), ("character", (Entity.mk [mood]).toJson)]
  have hcurrent : Entity.Current (Entity.mk [mood]).toJson [mood] :=
    ⟨⟨_, _, rfl, rfl, rfl⟩, by decide⟩
  obtain ⟨s, hs, hfind⟩ := hkeeps [("worldState", .obj state)] state "character" _ [mood] _ rfl rfl
    hcurrent rfl
  -- what is read has the member's name as its one attribute
  have hread : s.find? "character" =
      some ⟨[⟨"attributes", .list [⟨"mood", []⟩]⟩]⟩ := by
    rw [← Option.some.inj hs]
    rfl
  rw [hread] at hfind
  revert hfind
  decide

end WorldInfo

end Roleplay
