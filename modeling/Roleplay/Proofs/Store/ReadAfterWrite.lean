import Roleplay.Proofs.Store.World
import Roleplay.Proofs.World.Documents

/-!
# A stored state is read back

Storing a state writes the text of a document, and the state is read from that text again: parsed,
migrated and checked. The text begins with the state, in the current form, and no member that is
kept of the older document takes its place. So what is read is what was stored, whatever stood in
the conversation before; and no other conversation is touched.

## Main results

* `Store.worldOfText_text`: the text of world info with a state has that state
* `Store.worldState?_of_updateWorld`, `Store.worldState?_updateWorld`: the states after one of them
  was stored
-/

namespace Roleplay

namespace Store

variable {s s' : Store}

/-- World info comes from a text that can be read. -/
theorem read_of_worldOfText {t : Option Text} {i : WorldInfo} (h : worldOfText t = .ok (some i)) :
    ∃ u, t = some u ∧ WorldInfo.read u = .ok i := by
  cases t with
  | none => cases h
  | some u =>
    rw [worldOfText] at h
    split at h
    · cases h
    · cases hread : WorldInfo.read u with
      | ok j =>
        rw [hread] at h
        cases h
        exact ⟨u, rfl, hread⟩
      | error f =>
        rw [hread] at h
        cases f <;> cases h

/-- **What is kept beside a new state** can be written, and has no state. -/
theorem sound_withState {t : Option Text} {info : Option WorldInfo}
    (h : worldOfText t = .ok info) (state : Option WorldState) :
    ∃ kept, WorldInfo.withState info state = ⟨state, kept⟩ ∧ (Json.obj kept).Sound ∧
      Legacy.stateKey ∉ kept.map (·.1) := by
  cases info with
  | none => exact ⟨[], rfl, .obj List.nodup_nil (by simp), List.not_mem_nil⟩
  | some i =>
    obtain ⟨u, -, hread⟩ := read_of_worldOfText h
    exact ⟨i.extra, rfl, WorldInfo.sound_extra_of_read hread⟩

/-- **The text of world info** with a state has that state, whatever is kept beside it. -/
theorem worldOfText_text {state : WorldState} (hd : state.Distinct) {kept : Members}
    (hsound : (Json.obj kept).Sound) (hkeys : Legacy.stateKey ∉ kept.map (·.1)) :
    ∃ extra, worldOfText (some (WorldInfo.text ⟨some state, kept⟩)) =
      .ok (some ⟨some state, extra⟩) := by
  obtain ⟨extra, hinfo⟩ := WorldInfo.ofJson_written hd
    (kept.present.map fun m => (m.1, m.2.mapFloats Json.finiteOrNull))
  refine ⟨extra, worldOfText_of_read ?_⟩
  rw [WorldInfo.read, WorldInfo.read_text hd.keys hkeys hsound]
  exact hinfo

/-- **A stored state is read back**, and no other conversation is touched. -/
theorem worldState?_of_updateWorld {id : Int} {state : WorldState}
    (hthere : s.hasConversation id = true) (hd : state.Distinct)
    (h : s.updateWorld (some id) (some state) = .ok s') :
    s'.worldState? (some id) = .ok (some state) ∧
      ∀ other, other ≠ some id → s'.worldState? other = s.worldState? other := by
  rw [updateWorld] at h
  cases hinfo : s.readWorld (some id) with
  | error e =>
    rw [hinfo] at h
    cases h
  | ok info =>
    rw [hinfo] at h
    obtain ⟨hnew, hrest⟩ := worldInfo?_of_setWorldInfo hthere h
    constructor
    · -- what was kept of the old text is written behind the state, and the whole is read
      obtain ⟨t, -, ht⟩ := readWorld_eq_ok_iff.mp hinfo
      obtain ⟨kept, hkept, hsound, hkeys⟩ := sound_withState ht (some state)
      obtain ⟨extra, hread⟩ := worldOfText_text hd hsound hkeys
      have hworld : s'.readWorld (some id) = .ok (some ⟨some state, extra⟩) :=
        readWorld_eq_ok_iff.mpr ⟨_, hnew, hkept ▸ hread⟩
      rw [worldState?, hworld]
      rfl
    · -- the text of another conversation is the one it was
      intro other hne
      rw [worldState?, readWorld, hrest other hne]
      rfl

/-- **Read after write.** Whatever the document of a conversation was, once another state is stored
that state is read back, and the states of all other conversations are those they were. -/
theorem worldState?_updateWorld {id : Int} {state : WorldState}
    (hthere : s.hasConversation id = true) (hstate : state.Reachable)
    (h : s.updateWorld (some id) (some state) = .ok s') :
    s'.worldState? (some id) = .ok (some state) ∧
      ∀ other, other ≠ some id → s'.worldState? other = s.worldState? other :=
  worldState?_of_updateWorld hthere (WorldState.reachable_iff_distinct.mp hstate) h

/-- A document with a state under another name and clothes of an older form; the new state has an
entity named as the list of an older entity, one without attributes, and names of no letters. -/
theorem worldState?_updateWorld_migrated :
    let ms : Members :=
      [("world_state", .obj [("user", .null)]), ("clothes", .obj [("user", .arr [.str "hat"])])]
    let s : Store :=
      { conversations := ⟨2, [⟨1, 1, none, none, some (Json.write .plain (.obj ms))⟩,
          ⟨2, 1, none, none, none⟩]⟩ }
    let state : WorldState :=
      ⟨[("attributes", ⟨[⟨"", .list [⟨"", "\"\n"⟩, ⟨"ring", []⟩]⟩, ⟨"Mood", .text " "⟩]⟩),
        ("", ⟨[]⟩)]⟩
    ∃ s', s.updateWorld (some 1) (some state) = .ok s' ∧
      s'.worldState? (some 1) = .ok (some state) ∧ s'.worldState? (some 2) = .ok none := by
  intro ms s state
  have hobject : Json.read (Json.write .plain (.obj ms)) = .ok (.obj ms) := by
    apply Json.read_write_plain
    refine .obj (show List.Nodup (α := Text) ["world_state", "clothes"] by decide) ?_
    simp only [ms, List.mem_cons, List.not_mem_nil, or_false, forall_eq_or_imp, forall_eq]
    constructor
    · exact .obj (List.nodup_singleton _) (by simp [Json.Sound.null])
    · exact .obj (List.nodup_singleton _) (by
        simp only [List.mem_singleton, forall_eq]
        exact .arr (by simp [Json.Sound.str]))
  obtain ⟨i, hi⟩ : ∃ i, WorldInfo.ofJson (.obj ms) = .ok i := ⟨_, rfl⟩
  have hread : WorldInfo.read (Json.write .plain (.obj ms)) = .ok i := by
    rw [WorldInfo.read, hobject]
    exact hi
  obtain ⟨s', hupdate, -⟩ := updateWorld_of_worldOfText
    (show s.worldInfo? (some 1) = _ from rfl) (worldOfText_of_read hread) (some state)
  obtain ⟨hnew, hrest⟩ := worldState?_updateWorld (show s.hasConversation 1 = true by decide)
    (WorldState.reachable_iff_distinct.mpr (by decide)) hupdate
  exact ⟨s', hupdate, hnew, (hrest (some 2) (by decide)).trans rfl⟩

end Store

end Roleplay
