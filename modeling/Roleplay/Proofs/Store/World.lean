import Roleplay.Proofs.Json.Fields
import Roleplay.Proofs.Json.ReadBack
import Roleplay.Store.World

/-!
# What an update of the world keeps

Storing another state of a world rewrites the whole document of a conversation. When the old
document can be read, its members beside the state stand in the new one: all but those that are
null, with null in the place of numbers that are not finite. A document that cannot be read counts
as none, so an update of such a world loses all other members with the state.

## Main definitions

* `WorldInfo.sources`: the members that the state of a document is read from

## Main results

* `WorldInfo.extra_ofJson`: what is kept of a document beside its state
* `WorldInfo.read_text`: the text of world info is read back
* `Store.worldInfo?_of_setWorldInfo`: the documents after one of them was replaced
* `Store.updateWorld_keeps_rest`: an update keeps what stands beside the state
* `Store.updateWorld_loses_rest`: without a state that can be read it does not
-/

namespace Roleplay

/-! ## The documents of states -/

theorem Item.steady_toJson (i : Item) : i.toJson.Steady :=
  .obj (show List.Nodup (α := Text) ["name", "description"] by decide) (by simp [Json.steady_str])

theorem AttributeValue.steady_toJson (v : AttributeValue) : v.toJson.Steady := by
  cases v with
  | text t => exact Json.steady_str t
  | list items =>
    apply Json.Steady.arr
    intro x hx
    obtain ⟨i, -, rfl⟩ := List.mem_map.mp hx
    exact i.steady_toJson

theorem Attribute.steady_toJson (a : Attribute) : a.toJson.Steady :=
  .obj (show List.Nodup (α := Text) ["name", "type", "value"] by decide)
    (by simp [Json.steady_str, a.value.steady_toJson])

theorem Entity.steady_toJson (e : Entity) : e.toJson.Steady := by
  refine .obj (List.nodup_singleton _) ?_
  simp only [List.mem_singleton, forall_eq]
  apply Json.Steady.arr
  intro x hx
  obtain ⟨a, -, rfl⟩ := List.mem_map.mp hx
  exact a.steady_toJson

/-- **The document of a state** is kept by every style. -/
theorem WorldState.steady_toJson {s : WorldState} (h : s.keys.Nodup) : s.toJson.Steady := by
  apply Json.Steady.obj
  · rw [List.map_map]
    exact h
  · intro p hp
    obtain ⟨⟨k, e⟩, -, rfl⟩ := List.mem_map.mp hp
    exact e.steady_toJson

namespace WorldInfo

/-! ## What is read beside the state -/

/-- The name of the state in documents that do not use the current one. -/
def otherKey : Text := "world_state"

/-- **The members that the state of a document is read from**: the member that holds it; the clothes
as well when they are migrated to it; and the other name of that member when there is none. -/
def sources (ms : Members) : List Text :=
  match ms.get Legacy.stateKey, ms.get Legacy.clothesKey with
  | .obj _, _ => [Legacy.stateKey]
  | _, .obj _ => [Legacy.stateKey, Legacy.clothesKey]
  | _, _ =>
    if (ms.get? Legacy.stateKey).isSome then [Legacy.stateKey] else [Legacy.stateKey, otherKey]

variable {ms : Members}

theorem sources_of_state {state : Members} (h : ms.get Legacy.stateKey = .obj state) :
    sources ms = [Legacy.stateKey] := by
  rw [sources, h]

theorem sources_of_clothes (h : ∀ state, ms.get Legacy.stateKey = .obj state → False)
    {clothes : Members} (hclothes : ms.get Legacy.clothesKey = .obj clothes) :
    sources ms = [Legacy.stateKey, Legacy.clothesKey] := by
  rw [sources, hclothes]
  split
  · next hstate => exact (h _ hstate).elim
  · rfl
  · next hnone => exact (hnone _ rfl).elim

theorem sources_of_none (h : ∀ state, ms.get Legacy.stateKey = .obj state → False)
    (hclothes : ∀ clothes, ms.get Legacy.clothesKey = .obj clothes → False) :
    sources ms = if (ms.get? Legacy.stateKey).isSome then [Legacy.stateKey]
      else [Legacy.stateKey, otherKey] := by
  rw [sources]
  split
  · next hstate => exact (h _ hstate).elim
  · next hclothes' _ => exact (hclothes _ hclothes').elim
  · rfl

theorem stateKey_mem_sources (ms : Members) : Legacy.stateKey ∈ sources ms := by
  rw [sources]
  split
  · exact List.mem_cons_self
  · exact List.mem_cons_self
  · split
    · exact List.mem_cons_self
    · exact List.mem_cons_self

/-- Of a document in the current form all is kept but the member that holds the state. -/
theorem extra_ofMembers {i : WorldInfo} (h : ofMembers ms = .valid i) :
    i.extra = if (ms.get? Legacy.stateKey).isSome then ms.remove Legacy.stateKey
      else ms.remove otherKey := by
  have hextra : i.extra = (ms.firstOf stateKeys).elim ms fun found => ms.remove found.1 := by
    rw [ofMembers] at h
    cases hs : ms.optional stateKeys none (Checked.nullable WorldState.ofJson) with
    | invalid fs =>
      rw [hs] at h
      cases h
    | valid s =>
      rw [hs] at h
      cases hfirst : ms.firstOf stateKeys with
      | none =>
        rw [hfirst] at h
        cases h
        rfl
      | some found =>
        rw [hfirst] at h
        cases h
        rfl
  -- under the current name, under the other one, or under neither
  have hkeys : stateKeys = [Legacy.stateKey, otherKey] := rfl
  rw [hextra, hkeys, Members.firstOf_cons, Members.firstOf_cons]
  cases hstate : ms.get? Legacy.stateKey with
  | some v => rfl
  | none =>
    cases hother : ms.get? otherKey with
    | some v => rfl
    | none => exact (Entries.remove_of_notMem (Entries.get?_eq_none_iff.mp hother)).symm

theorem ofMembers_of_ofJson {current : Members} {i : WorldInfo}
    (hmigrate : Legacy.migrate (.obj ms) = some current) (h : ofJson (.obj ms) = .ok i) :
    ofMembers current = .valid i := by
  rw [ofJson, hmigrate] at h
  dsimp only at h
  cases hi : ofMembers current with
  | invalid fs =>
    rw [hi] at h
    cases h
  | valid j =>
    rw [hi] at h
    cases h
    rfl

/-- **What is kept of a document** are the members that the state is not read from. -/
theorem extra_ofJson {i : WorldInfo} (h : ofJson (.obj ms) = .ok i) :
    i.extra = ms.without (sources ms) := by
  cases hmigrate : Legacy.migrate (.obj ms) with
  | none =>
    rw [ofJson, hmigrate] at h
    cases h
  | some current =>
    have hextra := extra_ofMembers (ofMembers_of_ofJson hmigrate h)
    rw [Legacy.migrate] at hmigrate
    split at hmigrate
    · next state _ hstate =>
      -- migrated or not, the member that holds the state is there, and goes
      have hsome := Members.get?_eq_some_of_get hstate (by simp)
      rw [sources_of_state hstate, Entries.without_cons, Entries.without_nil, hextra]
      cases hmigrate
      split
      · rw [Entries.get?_put_self, Option.isSome_some, if_pos rfl, Entries.remove_put]
      · rw [hsome, Option.isSome_some, if_pos rfl]
    · next clothes hclothes hstate =>
      -- the clothes are taken out, and the state that is put in goes again
      rw [sources_of_clothes hstate hclothes, Entries.without_cons, Entries.without_cons,
        Entries.without_nil, hextra]
      obtain ⟨character, -, hmigrate⟩ := Option.bind_eq_some_iff.mp hmigrate
      obtain ⟨user, -, hmigrate⟩ := Option.bind_eq_some_iff.mp hmigrate
      cases hmigrate
      rw [Entries.get?_put_self, Option.isSome_some, if_pos rfl, Entries.remove_put,
        Entries.remove_comm]
    · next hstate hclothes =>
      -- nothing is migrated
      cases hmigrate
      rw [sources_of_none hstate hclothes, hextra]
      split
      · rw [Entries.without_cons, Entries.without_nil]
      · next hnone =>
        rw [Entries.without_cons, Entries.without_cons, Entries.without_nil,
          Entries.remove_of_notMem (k := Legacy.stateKey)]
        exact Entries.get?_eq_none_iff.mp (Option.not_isSome_iff_eq_none.mp hnone)

/-- **What is kept of a text** are values of documents, with no state among them. -/
theorem sound_extra_of_read {t : Text} {i : WorldInfo} (h : read t = .ok i) :
    (Json.obj i.extra).Sound ∧ Legacy.stateKey ∉ i.extra.map (·.1) := by
  rw [read] at h
  cases hv : Json.read t with
  | error f =>
    rw [hv] at h
    cases h
  | ok v =>
    rw [hv] at h
    cases v with
    | obj ms =>
      have hextra := extra_ofJson h
      -- what is kept is a part of what was read
      have hsublist : i.extra.Sublist ms := hextra ▸ List.filter_sublist
      constructor
      · cases Json.sound_of_read hv with
        | obj hnodup hvalues =>
          exact .obj (hnodup.sublist (hsublist.map _)) fun p hp => hvalues p (hsublist.subset hp)
      · rw [hextra]
        intro hmem
        obtain ⟨m, hm, hkey⟩ := List.mem_map.mp hmem
        have hnot := of_decide_eq_true (List.mem_filter.mp hm).2
        exact hnot (hkey ▸ stateKey_mem_sources ms)
    | _ =>
      -- what is no object is read as one without members
      obtain rfl : ⟨none, []⟩ = i := Except.ok.inj h
      exact ⟨.obj List.nodup_nil (by simp), List.not_mem_nil⟩

/-! ## Its text -/

/-- **The text of world info is read back**: the state, then the other members, those that are null
left out. -/
theorem read_text {s : WorldState} (hs : s.keys.Nodup) {extra : Members}
    (hstate : Legacy.stateKey ∉ extra.map (·.1)) (hextra : (Json.obj extra).Sound) :
    Json.read (WorldInfo.text ⟨some s, extra⟩) =
      .ok (.obj ((Legacy.stateKey, s.toJson)
        :: extra.present.map fun m => (m.1, m.2.mapFloats Json.finiteOrNull))) := by
  have hsteady := s.steady_toJson hs
  have hpresent : extra.present.Sublist extra := List.filter_sublist
  have hsound : (toJson ⟨some s, extra⟩).Sound := by
    cases hextra with
    | obj hnodup hvalues =>
      apply Json.Sound.obj
      · exact List.nodup_cons.mpr ⟨fun h => hstate ((hpresent.map _).subset h),
          hnodup.sublist (hpresent.map _)⟩
      · intro p hp
        rcases List.mem_cons.mp hp with rfl | hmem
        · exact hsteady.sound
        · exact hvalues p (hpresent.subset hmem)
  rw [text, Json.read_write Json.readable_compact hsound, toJson, Json.mapFloats,
    Json.mapMembers_eq_map]
  show Except.ok (Json.obj ((Legacy.stateKey, s.toJson.mapFloats Json.finiteOrNull) :: _)) = _
  rw [hsteady.mapFloats_eq]
  rfl

end WorldInfo

/-- The row of a table that is found before a change is found after it. -/
theorem Table.find?_update {α : Type} {p : α → Bool} {f : α → α}
    (hf : ∀ r, p r = true → p (f r) = true) (t : Table α) :
    (t.update p f).find? p = (t.find? p).map f := by
  obtain ⟨lastId, rows⟩ := t
  simp only [update, find?]
  induction rows with
  | nil => rfl
  | cons r rows ih =>
    rw [List.map_cons]
    by_cases hr : p r = true
    · rw [if_pos hr, List.find?_cons_of_pos hr, List.find?_cons_of_pos (hf r hr), Option.map_some]
    · rw [if_neg hr, List.find?_cons_of_neg hr, List.find?_cons_of_neg hr, ih]

/-- A change of rows that are not looked for, before and after it, is not seen. -/
theorem Table.find?_update_of_not {α : Type} {p q : α → Bool} {f : α → α}
    (h : ∀ r, p r = true → q r = false ∧ q (f r) = false) (t : Table α) :
    (t.update p f).find? q = t.find? q := by
  obtain ⟨lastId, rows⟩ := t
  simp only [update, find?]
  induction rows with
  | nil => rfl
  | cons r rows ih =>
    rw [List.map_cons]
    by_cases hp : p r = true
    · obtain ⟨hq, hq'⟩ := h r hp
      rw [if_pos hp, List.find?_cons_of_neg (Bool.eq_false_iff.mp hq'),
        List.find?_cons_of_neg (Bool.eq_false_iff.mp hq), ih]
    · rw [if_neg hp, List.find?_cons, List.find?_cons, ih]

namespace Store

/-! ## Updates -/

/-- **The documents after one of them was replaced**: the new one in the conversation, when it is
there, and the old ones in all others. -/
theorem worldInfo?_of_setWorldInfo {s s' : Store} {id : Int} {u : Option Text}
    (hthere : s.hasConversation id = true) (h : s.setWorldInfo (some id) u = .ok s') :
    s'.worldInfo? (some id) = .ok u ∧
      ∀ other, other ≠ some id → s'.worldInfo? other = s.worldInfo? other := by
  rw [setWorldInfo] at h
  cases haccept : s.accept [some id] with
  | error e =>
    rw [haccept] at h
    cases h
  | ok =>
    rw [haccept] at h
    obtain rfl := Except.ok.inj h
    let change (c : Conversation) : Conversation := { c with worldInfo := u }
    have hopen : ∀ other, (s.changeConversation (some id) change).accept [other] =
        s.accept [other] := fun _ => rfl
    refine ⟨?_, fun other hne => ?_⟩
    · -- the conversation is found with its new document
      obtain ⟨c, hmem, hc⟩ := List.any_eq_true.mp hthere
      obtain ⟨r, hr⟩ : ∃ r, s.conversations.find? (fun c => some c.id = some id) = some r :=
        Option.isSome_iff_exists.mp (List.find?_isSome.mpr ⟨c, hmem, by simpa using hc⟩)
      have hkeep : ∀ c, decide (some c.id = some id) = true →
          decide (some (change c).id = some id) = true := fun _ h => h
      have hfind : (s.conversations.update (fun c => some c.id = some id) change).find?
          (fun c => some c.id = some id) = some (change r) := by
        rw [Table.find?_update hkeep, hr, Option.map_some]
      rw [worldInfo?, hopen, haccept, changeConversation, hfind]
      rfl
    · -- a changed conversation is none that is looked for
      have hfind : (s.conversations.update (fun c => some c.id = some id) change).find?
          (fun c => some c.id = other) = s.conversations.find? (fun c => some c.id = other) := by
        refine Table.find?_update_of_not (fun r hr => ?_) _
        have hr : some r.id = some id := of_decide_eq_true hr
        have hother : some r.id ≠ other := fun h => hne (h.symm.trans hr)
        exact ⟨decide_eq_false hother, decide_eq_false hother⟩
      rw [worldInfo?, hopen, changeConversation, hfind, worldInfo?]

/-- The world info of a conversation is that of its text. -/
theorem readWorld_eq_ok_iff {s : Store} {id : Option Int} {info : Option WorldInfo} :
    s.readWorld id = .ok info ↔ ∃ t, s.worldInfo? id = .ok t ∧ worldOfText t = .ok info := by
  rw [readWorld]
  cases s.worldInfo? id with
  | error e =>
    constructor
    · intro h
      cases h
    · rintro ⟨t, ht, -⟩
      cases ht
  | ok t =>
    constructor
    · exact fun h => ⟨t, rfl, h⟩
    · rintro ⟨u, hu, h⟩
      cases hu
      exact h

/-- **A document stored** in the place of another one is the document of the conversation. -/
theorem worldInfo?_setWorldInfo {s : Store} {id : Option Int} {t : Text}
    (h : s.worldInfo? id = .ok (some t)) (u : Text) :
    ∃ s', s.setWorldInfo id (some u) = .ok s' ∧ s'.worldInfo? id = .ok (some u) := by
  rw [worldInfo?] at h
  cases haccept : s.accept [id] with
  | error e =>
    rw [haccept] at h
    cases h
  | ok =>
    rw [haccept] at h
    -- the document is that of a conversation which is there
    obtain ⟨c, hc, -⟩ := Option.bind_eq_some_iff.mp (Except.ok.inj h)
    obtain rfl : some c.id = id := by simpa using List.find?_some hc
    have hthere : s.hasConversation c.id = true :=
      List.any_eq_true.mpr ⟨c, List.mem_of_find?_eq_some hc, decide_eq_true rfl⟩
    have hset : s.setWorldInfo (some c.id) (some u) =
        .ok (s.changeConversation (some c.id) fun c => { c with worldInfo := some u }) := by
      rw [setWorldInfo, haccept]
      rfl
    exact ⟨_, hset, (worldInfo?_of_setWorldInfo hthere hset).1⟩

theorem worldOfText_of_read {t : Text} {i : WorldInfo} (h : WorldInfo.read t = .ok i) :
    worldOfText (some t) = .ok (some i) := by
  have hne : t.isEmpty = false := by
    cases t with
    | nil => cases h
    | cons c t => rfl
  rw [worldOfText, hne, if_neg Bool.false_ne_true, h]

/-- A document with fields that fail counts as none. -/
theorem worldOfText_of_invalid {t : Text} {fields : List FieldPath}
    (h : WorldInfo.read t = .error (.invalid fields)) : worldOfText (some t) = .ok none := by
  rw [worldOfText, h]
  split <;> rfl

/-- **An update** writes the new state with what was read beside the old one. -/
theorem updateWorld_of_worldOfText {s : Store} {id : Option Int} {t : Text}
    {info : Option WorldInfo} (hstored : s.worldInfo? id = .ok (some t))
    (hworld : worldOfText (some t) = .ok info) (state : Option WorldState) :
    ∃ s', s.updateWorld id state = .ok s' ∧
      s'.worldInfo? id = .ok (some (WorldInfo.withState info state).text) := by
  have hread : s.readWorld id = .ok info := readWorld_eq_ok_iff.mpr ⟨_, hstored, hworld⟩
  obtain ⟨s', hset, hfound⟩ :=
    worldInfo?_setWorldInfo hstored (WorldInfo.withState info state).text
  refine ⟨s', ?_, hfound⟩
  rw [updateWorld, hread]
  exact hset

/-- **Another state stored** for a conversation whose document can be read: the members beside the
old state stand behind the new one. -/
theorem updateWorld_document {s : Store} {id : Option Int} {t : Text} {ms : Members}
    {i : WorldInfo} {state : WorldState} (hstored : s.worldInfo? id = .ok (some t))
    (hobject : Json.read t = .ok (.obj ms)) (hread : WorldInfo.ofJson (.obj ms) = .ok i)
    (hkeys : state.keys.Nodup) :
    ∃ s' u, s.updateWorld id (some state) = .ok s' ∧ s'.worldInfo? id = .ok (some u) ∧
      Json.read u = .ok (.obj ((Legacy.stateKey, state.toJson)
        :: (Members.present (ms.without (WorldInfo.sources ms))).map
            fun m => (m.1, m.2.mapFloats Json.finiteOrNull))) := by
  have hinfo : WorldInfo.read t = .ok i := by
    rw [WorldInfo.read, hobject]
    exact hread
  have hextra := WorldInfo.extra_ofJson hread
  obtain ⟨hsound, hstate⟩ := WorldInfo.sound_extra_of_read hinfo
  obtain ⟨s', hupdate, hfound⟩ :=
    updateWorld_of_worldOfText hstored (worldOfText_of_read hinfo) (some state)
  refine ⟨s', _, hupdate, hfound, ?_⟩
  show Json.read (WorldInfo.text ⟨some state, i.extra⟩) = _
  rw [WorldInfo.read_text hkeys hstate hsound, hextra]

/-- **An update keeps the rest** of a document that can be read: the new one has the new state, and
every other member that the old state was not read from. Only what is null is left out, and numbers
that are not finite become null. -/
theorem updateWorld_keeps_rest {s : Store} {id : Option Int} {t : Text} {ms : Members}
    {i : WorldInfo} {state : WorldState} (hstored : s.worldInfo? id = .ok (some t))
    (hobject : Json.read t = .ok (.obj ms)) (hread : WorldInfo.ofJson (.obj ms) = .ok i)
    (hkeys : state.keys.Nodup) :
    ∃ s' u ms', s.updateWorld id (some state) = .ok s' ∧ s'.worldInfo? id = .ok (some u) ∧
      Json.read u = .ok (.obj ms') ∧ Entries.get? ms' Legacy.stateKey = some state.toJson ∧
      ∀ k v, ms.get? k = some v → k ∉ WorldInfo.sources ms → v ≠ .null →
        Entries.get? ms' k = some (v.mapFloats Json.finiteOrNull) := by
  obtain ⟨s', u, hupdate, hfound, hdocument⟩ :=
    updateWorld_document hstored hobject hread hkeys
  refine ⟨s', u, _, hupdate, hfound, hdocument, ?_, ?_⟩
  · rw [Entries.get?_cons, if_pos rfl]
  · intro k v hk hsource hnull
    have hne : k ≠ Legacy.stateKey := by
      rintro rfl
      exact hsource (WorldInfo.stateKey_mem_sources ms)
    have hkept : Entries.get? (Members.present (ms.without (WorldInfo.sources ms))) k = some v := by
      apply Entries.get?_filter
      · exact Entries.get?_filter hk (decide_eq_true hsource)
      · cases v with
        | null => exact absurd rfl hnull
        | _ => rfl
    rw [Entries.get?_cons, if_neg hne, Entries.get?_map, hkept]
    rfl

/-- Notes are kept when an older document is migrated. -/
theorem updateWorld_keeps_rest_migrated :
    let notes : Json := .arr [.str "keep", .null]
    let ms : Members :=
      [("notes", notes), ("clothes", .obj [("user", .arr [.str "hat"])]), ("lamp", .null)]
    let s : Store :=
      { conversations := ⟨1, [⟨1, 1, none, none, some (Json.write .plain (.obj ms))⟩]⟩ }
    let state : WorldState := ⟨[("user", ⟨[⟨"position", .text "door"⟩]⟩)]⟩
    ∃ s' u ms', s.updateWorld (some 1) (some state) = .ok s' ∧
      s'.worldInfo? (some 1) = .ok (some u) ∧ Json.read u = .ok (.obj ms') ∧
      Entries.get? ms' Legacy.stateKey = some state.toJson ∧
      Entries.get? ms' "notes" = some notes := by
  intro notes ms s state
  have hnotes : notes.Sound := .arr (by simp [Json.Sound.str, Json.Sound.null])
  have hclothes : (Json.obj [("user", .arr [.str "hat"])]).Sound :=
    .obj (List.nodup_singleton _) (by
      simp only [List.mem_singleton, forall_eq]
      exact .arr (by simp [Json.Sound.str]))
  have hobject : Json.read (Json.write .plain (.obj ms)) = .ok (.obj ms) := by
    apply Json.read_write_plain
    refine .obj (show List.Nodup (α := Text) ["notes", "clothes", "lamp"] by decide) ?_
    simp only [ms, List.mem_cons, List.not_mem_nil, or_false, forall_eq_or_imp, forall_eq]
    exact ⟨hnotes, hclothes, .null⟩
  obtain ⟨i, hread⟩ : ∃ i, WorldInfo.ofJson (.obj ms) = .ok i := ⟨_, rfl⟩
  obtain ⟨s', u, ms', hupdate, hfound, hdocument, hstate, hrest⟩ :=
    updateWorld_keeps_rest (show s.worldInfo? (some 1) = _ from rfl) hobject hread
      (show state.keys.Nodup by decide)
  refine ⟨s', u, ms', hupdate, hfound, hdocument, hstate, ?_⟩
  rw [hrest "notes" notes rfl (by decide) (by simp [notes])]
  rfl

/-- **An update does not always keep the rest**: with a state that cannot be read the document
counts as none, and what stands beside it is lost. -/
theorem updateWorld_loses_rest :
    ¬ ∀ (s s' : Store) (id : Option Int) (t : Text) (ms : Members) (state : WorldState),
      s.worldInfo? id = .ok (some t) → Json.read t = .ok (.obj ms) → state.keys.Nodup →
      s.updateWorld id (some state) = .ok s' →
      ∃ u ms', s'.worldInfo? id = .ok (some u) ∧ Json.read u = .ok (.obj ms') ∧
        Entries.get? ms' Legacy.stateKey = some state.toJson ∧
        ∀ k v, ms.get? k = some v → k ≠ Legacy.stateKey → k ≠ Legacy.clothesKey →
          Entries.get? ms' k = some v := by
  intro hkeeps
  let ms : Members := [("worldState", .int 5), ("notes", .str "keep")]
  let document : Text := "\x7b\"worldState\": 5, \"notes\": \"keep\"\x7d"
  let s : Store := { conversations := ⟨1, [⟨1, 1, none, none, some document⟩]⟩ }
  let state : WorldState := ⟨[("character", ⟨[⟨"mood", .text "calm"⟩]⟩)]⟩
  have hstored : s.worldInfo? (some 1) = .ok (some document) := rfl
  have hsound : (Json.obj ms).Sound := by
    refine .obj (show List.Nodup (α := Text) ["worldState", "notes"] by decide) ?_
    simp only [ms, List.mem_cons, List.not_mem_nil, or_false, forall_eq_or_imp, forall_eq]
    exact ⟨.int (Nat.lt_of_lt_of_le (show 5 < 10 ^ 1 by decide)
      (Nat.pow_le_pow_right (by decide) (by decide))), .str _⟩
  have hobject : Json.read document = .ok (.obj ms) := by
    have hdocument : document = Json.write .plain (.obj ms) := rfl
    rw [hdocument]
    exact Json.read_write_plain hsound
  have hread : WorldInfo.read document = .error (.invalid [["worldState"]]) := by
    rw [WorldInfo.read, hobject]
    rfl
  obtain ⟨s', hupdate, hnew⟩ :=
    updateWorld_of_worldOfText hstored (worldOfText_of_invalid hread) (some state)
  obtain ⟨u, ms', hfound, hdocument, -, hrest⟩ :=
    hkeeps s s' (some 1) document ms state hstored hobject (by decide) hupdate
  -- the new document has the state and nothing else
  rw [hnew] at hfound
  cases hfound
  have hstate : Json.read (WorldInfo.text ⟨some state, []⟩) =
      .ok (.obj [(Legacy.stateKey, state.toJson)]) :=
    WorldInfo.read_text (by decide) List.not_mem_nil (.obj List.nodup_nil (by simp))
  have heq := Except.ok.inj (hdocument.symm.trans hstate)
  cases heq
  have hnotes := hrest "notes" (.str "keep") rfl (by decide) (by decide)
  cases hnotes

end Store

end Roleplay
