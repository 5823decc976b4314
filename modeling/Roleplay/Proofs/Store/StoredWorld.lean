import Roleplay.Proofs.Generation.Speech
import Roleplay.Proofs.Store.World

/-!
# Reading a stored world

A conversation may hold any text as its world. A text that is no document, a document with fields
that fail, a value of any kind and an older document all count as none or give world info; so none
of them keeps a generation from asking or an update from being stored.

There is one exception. The oldest documents hold nothing but the clothes of the two speakers, and
the clothes of a speaker are listed without a look at what they are. A truth or a number other than
zero cannot be listed, and such a document fails wherever it is read.

## Main definitions

* `Legacy.Unlistable`: values that cannot be listed
* `Legacy.Unreadable`, `Store.Unreadable`: the documents, and the stored texts, that cannot be read
* `Store.Serves`: a store whose world does not get in the way in a conversation

## Main results

* `Legacy.migrate_eq_none_iff`: the documents that cannot be migrated
* `Store.worldOfText_of_unreadable`, `Store.exists_worldOfText`: what a stored text gives
* `Store.readWorld_of_stored`: what depends on a stored world fails with it only in the exception
* `Store.readWorld_fails`: there is the exception
-/

namespace Roleplay

namespace Legacy

/-! ## What cannot be listed -/

/-- **Values that cannot be listed**: truth, and numbers other than zero. -/
inductive Unlistable : Json → Prop
  | truth : Unlistable (.bool true)
  | int {i : Int} (h : i ≠ 0) : Unlistable (.int i)
  | float {x : Binary64} (h : (Json.float x).isTruthy = true) : Unlistable (.float x)

theorem Unlistable.isTruthy {v : Json} (h : Unlistable v) : v.isTruthy = true := by
  cases h with
  | truth => rfl
  | int h => simpa [Json.isTruthy] using h
  | float h => exact h

theorem items?_eq_none_iff {v : Json} : items? v = none ↔ Unlistable v := by
  rw [items?, Option.map_eq_none_iff]
  constructor
  · intro h
    unfold entries? at h
    split at h
    · next htruthy =>
      cases v with
      | bool b =>
        cases b with
        | false => cases htruthy
        | true => exact .truth
      | int i => exact .int (by simpa [Json.isTruthy] using htruthy)
      | float x => exact .float htruthy
      | null => cases htruthy
      | _ => cases h
    · cases h
  · intro h
    unfold entries?
    rw [if_pos h.isTruthy]
    cases h <;> rfl

theorem clothed?_eq_none_iff {clothes : Members} {speaker : Text} :
    clothed? clothes speaker = none ↔ Unlistable (clothes.get speaker) := by
  rw [clothed?, Option.map_eq_none_iff, items?_eq_none_iff]

/-- **Documents that cannot be read**: those without a state, with clothes of a speaker that cannot
be listed. -/
inductive Unreadable : Json → Prop
  | clothes {ms clothes : Members} (hstate : ∀ state, Members.get ms stateKey ≠ .obj state)
      (hclothes : Members.get ms clothesKey = .obj clothes) {speaker : Text}
      (hspeaker : speaker ∈ [characterKey, userKey]) (h : Unlistable (clothes.get speaker)) :
      Unreadable (.obj ms)

/-- **The documents that cannot be migrated** are those that cannot be read. -/
theorem migrate_eq_none_iff {v : Json} : migrate v = none ↔ Unreadable v := by
  constructor
  · intro h
    unfold migrate at h
    split at h
    · next ms =>
      split at h
      · cases h
      · next clothes hclothes hstate =>
        -- one of the two speakers has clothes that cannot be listed
        cases hcharacter : clothed? clothes characterKey with
        | none => exact .clothes hstate hclothes (by simp) (clothed?_eq_none_iff.mp hcharacter)
        | some character =>
          cases huser : clothed? clothes userKey with
          | none => exact .clothes hstate hclothes (by simp) (clothed?_eq_none_iff.mp huser)
          | some user =>
            rw [hcharacter, huser] at h
            cases h
      · cases h
    · cases h
  · intro h
    cases h with
    | @clothes ms clothes hstate hclothes speaker hspeaker hunlistable =>
      have hnone : clothed? clothes speaker = none := clothed?_eq_none_iff.mpr hunlistable
      unfold migrate
      dsimp only
      split
      · next state h => exact absurd h (hstate state)
      · next clothes' hclothes' _ =>
        cases hclothes.symm.trans hclothes'
        rcases List.mem_pair.mp hspeaker with rfl | rfl
        · rw [hnone]
          rfl
        · rw [hnone]
          cases clothed? clothes characterKey <;> rfl
      · next hother => exact absurd hclothes (hother clothes)

end Legacy

namespace Store

/-! ## What a stored text gives -/

/-- **Stored texts that cannot be read.** -/
def Unreadable (stored : Option Text) : Prop :=
  ∃ t v, stored = some t ∧ Json.read t = .ok v ∧ Legacy.Unreadable v

/-- A text that cannot be read fails, and does not count as none. -/
theorem worldOfText_of_unreadable {stored : Option Text} (h : Unreadable stored) :
    worldOfText stored = .error .wrongKind := by
  obtain ⟨t, v, rfl, hread, hunreadable⟩ := h
  have hne : t.isEmpty = false := by
    cases t with
    | nil => cases hread
    | cons c t => rfl
  have hfault : WorldInfo.read t = .error .notListable := by
    rw [WorldInfo.read, hread]
    simp only [WorldInfo.ofJson, Legacy.migrate_eq_none_iff.mpr hunreadable]
  rw [worldOfText, hne, if_neg Bool.false_ne_true, hfault]

/-- **Any other stored text** gives world info or none. -/
theorem exists_worldOfText {stored : Option Text} (h : ¬ Unreadable stored) :
    ∃ info, worldOfText stored = .ok info := by
  cases stored with
  | none => exact ⟨none, rfl⟩
  | some t =>
    unfold worldOfText
    dsimp only
    split
    · exact ⟨none, rfl⟩
    · split
      · next i _ => exact ⟨some i, rfl⟩
      · next hfault =>
        -- a value was read that cannot be migrated
        refine absurd ?_ h
        unfold WorldInfo.read at hfault
        split at hfault
        · cases hfault
        · next v hv =>
          refine ⟨t, v, rfl, hv, Legacy.migrate_eq_none_iff.mp ?_⟩
          unfold WorldInfo.ofJson at hfault
          split at hfault
          · next hnone => exact hnone
          · split at hfault <;> cases hfault
      · exact ⟨none, rfl⟩

/-! ## What depends on a stored world -/

/-- **A store whose world does not get in the way** in a conversation: the world is read, another
state can be stored, and a generation that asks the store for the world sends its request when
nothing else fails. -/
structure Serves (s : Store) (id : Option Int) : Prop where
  read : ∃ info, s.readWorld id = .ok info
  update : ∀ state, ∃ s', s.updateWorld id state = .ok s'
  speech : ∀ c : Collaborators, c.world = some s.worldState? →
    ({ c with world := none } : Collaborators).Answers id →
    ∀ (p : Speech) (history : List Message) (character : Character) (settings : Settings)
      (scenario : Option Text) (user : Option Int) (card : Card),
      Card.read character.cardText = .ok card →
      ∃ r use, (p.generate c history character settings id scenario user).Asks c.gateway r use
  scene : ∀ c : Collaborators, c.world = some s.worldState? →
    ({ c with world := none } : Collaborators).Answers id →
    ∀ source : SceneSource, source.Answers id →
      ∀ (user : Option Int) (kind : Text) (context : SceneContext),
        ∃ r use, (generateSceneNarration c (some source) user id kind context).Asks c.gateway r use

section Stored

variable {s : Store} {id : Option Int} {stored : Option Text}

theorem exists_setWorldInfo (h : s.worldInfo? id = .ok stored) (u : Option Text) :
    ∃ s', s.setWorldInfo id u = .ok s' := by
  rw [worldInfo?] at h
  rw [setWorldInfo]
  cases haccept : s.accept [id] with
  | error e =>
    rw [haccept] at h
    cases h
  | ok => exact ⟨_, rfl⟩

/-- What a generation asks for is there when the world is read and nothing else fails. -/
theorem answers_of_readWorld {info : Option WorldInfo} (h : s.readWorld id = .ok info)
    {c : Collaborators} (hworld : c.world = some s.worldState?)
    (hothers : ({ c with world := none } : Collaborators).Answers id) : c.Answers id where
  addressee := hothers.addressee
  templates := hothers.templates
  world := by
    intro world hw
    cases hworld.symm.trans hw
    refine ⟨info.bind (·.state), ?_⟩
    rw [worldState?, h]
    rfl
  lore := hothers.lore

theorem serves_of_readWorld (hstored : s.worldInfo? id = .ok stored) {info : Option WorldInfo}
    (hread : s.readWorld id = .ok info) : s.Serves id where
  read := ⟨info, hread⟩
  update := by
    intro state
    rw [updateWorld, hread]
    exact exists_setWorldInfo hstored _
  speech := by
    intro c hworld hothers p history character settings scenario user card hcard
    obtain ⟨_, _, -, hasks⟩ :=
      Speech.asks_of_answers (s := p) hcard (answers_of_readWorld hread hworld hothers)
    exact ⟨_, _, hasks⟩
  scene := by
    intro c hworld hothers source hsource user kind context
    obtain ⟨_, _, -, hasks⟩ := generateSceneNarration_asks hsource
      (answers_of_readWorld hread hworld hothers) user kind context
    exact ⟨_, _, hasks⟩

/-- **A stored world gets in the way** only when the text cannot be read. -/
theorem readWorld_of_stored (hstored : s.worldInfo? id = .ok stored) :
    (¬ Unreadable stored → s.Serves id) ∧
      (Unreadable stored → s.readWorld id = .error .wrongKind ∧
        ∀ state, s.updateWorld id state = .error .wrongKind) := by
  have hread : s.readWorld id = worldOfText stored := by
    rw [readWorld, hstored]
    rfl
  constructor
  · intro h
    obtain ⟨info, hinfo⟩ := exists_worldOfText h
    exact serves_of_readWorld hstored (hread.trans hinfo)
  · intro h
    rw [worldOfText_of_unreadable h] at hread
    refine ⟨hread, fun state => ?_⟩
    rw [updateWorld, hread]
    rfl

end Stored

/-- A document that holds nothing but clothes is read from its text. -/
theorem read_write_clothes {clothes : Members} (h : (Json.obj clothes).Sound) :
    Json.read (Json.write .plain (.obj [(Legacy.clothesKey, .obj clothes)])) =
      .ok (.obj [(Legacy.clothesKey, .obj clothes)]) := by
  refine Json.read_write_plain (.obj (List.nodup_singleton _) ?_)
  simpa only [List.mem_singleton, forall_eq] using h

/-- The clothes of one speaker are none, and those of the other a text. -/
theorem readWorld_of_stored_false :
    let clothes : Members := [("character", .bool false), ("user", .str "hat")]
    let document : Text := Json.write .plain (.obj [(Legacy.clothesKey, .obj clothes)])
    let s : Store := { conversations := ⟨1, [⟨1, 1, none, none, some document⟩]⟩ }
    s.worldInfo? (some 1) = .ok (some document) ∧ ¬ Unreadable (some document) ∧
      s.Serves (some 1) := by
  intro clothes document s
  have hclothes : (Json.obj clothes).Sound := by
    refine .obj (show List.Nodup (α := Text) ["character", "user"] by decide) ?_
    simp only [clothes, List.mem_cons, List.not_mem_nil, or_false, forall_eq_or_imp, forall_eq]
    exact ⟨.bool false, .str _⟩
  have hreadable : ¬ Unreadable (some document) := by
    rintro ⟨t, v, ht, hv, hunreadable⟩
    obtain rfl : document = t := Option.some.inj ht
    rw [read_write_clothes hclothes] at hv
    cases hv
    have hmigrate := Legacy.migrate_eq_none_iff.mpr hunreadable
    cases hmigrate
  exact ⟨rfl, hreadable, (readWorld_of_stored rfl).1 hreadable⟩

/-- **A stored world cannot always be read**: in one of the oldest documents, a truth stands in the
place of a speaker's clothes. -/
theorem readWorld_fails :
    ¬ ∀ (s : Store) (id : Option Int) (stored : Option Text), s.worldInfo? id = .ok stored →
      ∃ info, s.readWorld id = .ok info := by
  intro hreads
  let clothes : Members := [("character", .bool true)]
  let document : Text := Json.write .plain (.obj [(Legacy.clothesKey, .obj clothes)])
  let s : Store := { conversations := ⟨1, [⟨1, 1, none, none, some document⟩]⟩ }
  have hclothes : (Json.obj clothes).Sound := by
    refine .obj (List.nodup_singleton _) ?_
    simpa only [clothes, List.mem_singleton, forall_eq] using .bool true
  have hnone : Members.get [(Legacy.clothesKey, .obj clothes)] Legacy.stateKey = .null := rfl
  have hunreadable : Legacy.Unreadable (.obj [(Legacy.clothesKey, .obj clothes)]) := by
    refine .clothes (fun state h => ?_) rfl List.mem_cons_self .truth
    cases hnone.symm.trans h
  obtain ⟨info, hinfo⟩ := hreads s (some 1) (some document) rfl
  have hworld : worldOfText (some document) = .error .wrongKind :=
    worldOfText_of_unreadable ⟨document, _, rfl, read_write_clothes hclothes, hunreadable⟩
  obtain ⟨t, ht, hread⟩ := readWorld_eq_ok_iff.mp hinfo
  obtain rfl : some document = t := Except.ok.inj ht
  cases hworld.symm.trans hread

end Store

end Roleplay
