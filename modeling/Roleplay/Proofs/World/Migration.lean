import Roleplay.Proofs.World.Documents

/-!
# Migration settles

A stored document is migrated whenever it is read, and may have been written in the meantime or
not. So it must not matter how often it is migrated: what migration gives is in the current form. A
state comes out either empty or with a first entity that lists its attributes, and a state made of
clothes begins with such an entity too.

Migration looks at two members, the state and the clothes. Every other member stays where it is and
what it is. The clothes go only when they become the state; and the state is left alone unless it is
flat or made of clothes.

## Main definitions

* `Legacy.Flat`, `Legacy.OnlyClothes`: the two older forms of a document
* `Legacy.Becomes`: what migration makes of the members of a document

## Main results

* `Legacy.becomes_of_migrate`: migration does nothing else
* `Legacy.migrate_of_becomes`: what it gives is left alone
* `Legacy.migrate_settles`: migrating twice is migrating once, and touches nothing else
-/

namespace Roleplay.Legacy

variable {ms out state clothes : Members}

/-! ## The older forms -/

/-- **A flat document**: its state has a first entity that is not in the current form. -/
def Flat (ms : Members) : Prop :=
  ∃ key entity rest, ms.get stateKey = .obj ((key, entity) :: rest) ∧ isCurrent entity = false

/-- **A document of clothes**: it has no state, and has clothes. -/
def OnlyClothes (ms : Members) : Prop :=
  (∀ state, ms.get stateKey ≠ .obj state) ∧ ∃ clothes, ms.get clothesKey = .obj clothes

theorem isFlat_eq_false_of_not_flat (hstate : ms.get stateKey = .obj state) (h : ¬ Flat ms) :
    isFlat state = false := by
  cases state with
  | nil => rfl
  | cons m rest =>
    obtain ⟨key, entity⟩ := m
    rw [isFlat, Bool.not_eq_false']
    by_contra hentity
    exact h ⟨key, entity, rest, hstate, Bool.eq_false_iff.mpr hentity⟩

/-- The state that the clothes of the two speakers become. -/
def clothesState (character user : List Item) : Json :=
  .obj [(characterKey, (Entity.mk [⟨clothesKey, .list character⟩]).toJson),
    (userKey, (Entity.mk [⟨clothesKey, .list user⟩]).toJson)]

/-- **What migration makes** of the members of a document. -/
inductive Becomes (ms : Members) : Members → Prop
  | current (hflat : ¬ Flat ms) (hclothes : ¬ OnlyClothes ms) : Becomes ms ms
  | flat {state : Members} (hstate : ms.get stateKey = .obj state) (hflat : Flat ms) :
    Becomes ms (Entries.put ms stateKey (.obj (entities state)))
  | clothes {clothes : Members} {character user : List Item}
      (hstate : ∀ state, ms.get stateKey ≠ .obj state) (hclothes : ms.get clothesKey = .obj clothes)
      (hcharacter : items? (clothes.get characterKey) = some character)
      (huser : items? (clothes.get userKey) = some user) :
    Becomes ms (Entries.put (Entries.remove ms clothesKey) stateKey (clothesState character user))

/-- A flat document has a state, so it is no document of clothes. -/
theorem Flat.not_onlyClothes (h : Flat ms) : ¬ OnlyClothes ms := by
  obtain ⟨key, entity, rest, hstate, -⟩ := h
  exact fun hclothes => hclothes.1 _ hstate

/-- **Migration does nothing else.** -/
theorem becomes_of_migrate (h : migrate (.obj ms) = some out) : Becomes ms out := by
  rw [migrate] at h
  split at h
  · -- there is a state, flat or not
    next state _ hstate =>
    have hnot : ¬ OnlyClothes ms := fun hclothes => hclothes.1 _ hstate
    by_cases hflat : Flat ms
    · obtain ⟨key, entity, rest, hget, hentity⟩ := id hflat
      obtain rfl := Json.obj.inj (hstate.symm.trans hget)
      rw [isFlat, hentity, Bool.not_false, if_pos rfl] at h
      obtain rfl := Option.some.inj h
      exact .flat hstate hflat
    · rw [isFlat_eq_false_of_not_flat hstate hflat, if_neg Bool.false_ne_true] at h
      obtain rfl := Option.some.inj h
      exact .current hflat hnot
  · -- there is none, but there are clothes
    next clothes hclothes hstate =>
    obtain ⟨character, hcharacter, h⟩ := Option.bind_eq_some_iff.mp h
    obtain ⟨user, huser, h⟩ := Option.bind_eq_some_iff.mp h
    obtain ⟨characterItems, hcharacterItems, rfl⟩ := Option.map_eq_some_iff.mp hcharacter
    obtain ⟨userItems, huserItems, rfl⟩ := Option.map_eq_some_iff.mp huser
    obtain rfl := Option.some.inj h
    exact .clothes hstate hclothes hcharacterItems huserItems
  · -- there is neither
    next hstate hclothes =>
    obtain rfl := Option.some.inj h
    refine .current ?_ ?_
    · rintro ⟨key, entity, rest, hget, -⟩
      exact hstate _ hget
    · rintro ⟨-, clothes, hget⟩
      exact hclothes clothes hget

/-! ## The current form -/

/-- A document with a state that is not flat is left alone. -/
theorem migrate_of_not_flat (hstate : ms.get stateKey = .obj state) (h : isFlat state = false) :
    migrate (.obj ms) = some ms := by
  simp only [migrate, hstate, h, Bool.false_eq_true, if_false]

theorem get_put_self (ms : Members) (k : Text) (v : Json) :
    Members.get (Entries.put ms k v) k = v := by
  rw [Members.get, Entries.get?_put_self, Option.getD_some]

/-- **Migrated entities** are in the current form, those of them that there are. -/
theorem isFlat_entities (state : Members) : isFlat (entities state) = false := by
  have hcurrent : ∀ m ∈ entities state, isCurrent m.2 = true := by
    intro m hm
    obtain ⟨⟨key, v⟩, -, hv⟩ := List.mem_filterMap.mp hm
    cases v with
    | obj entity =>
      obtain rfl := Option.some.inj hv
      rfl
    | _ => cases hv
  cases hentities : entities state with
  | nil => rfl
  | cons m rest =>
    rw [isFlat, hcurrent m (hentities ▸ List.mem_cons_self), Bool.not_true]

/-- **What migration gives** is left alone. -/
theorem migrate_of_becomes (h : Becomes ms out) : migrate (.obj out) = some out := by
  cases h with
  | current hflat hclothes =>
    unfold migrate
    dsimp only
    split
    · next state _ hstate =>
      rw [isFlat_eq_false_of_not_flat hstate hflat, if_neg Bool.false_ne_true]
    · next clothes hget hstate => exact absurd ⟨hstate, clothes, hget⟩ hclothes
    · rfl
  | flat hstate hflat => exact migrate_of_not_flat (get_put_self _ _ _) (isFlat_entities _)
  | clothes hstate hclothes hcharacter huser =>
    -- the entity of the character comes first, and lists its attributes
    exact migrate_of_not_flat (get_put_self _ _ _) rfl

/-! ## The other members -/

theorem clothesKey_ne_stateKey : clothesKey ≠ stateKey := by
  decide

/-- **The members beside the state** stay, but for clothes that become the state. -/
theorem remove_of_becomes (h : Becomes ms out) :
    (¬ OnlyClothes ms → Entries.remove out stateKey = Entries.remove ms stateKey) ∧
      (OnlyClothes ms → Entries.remove out stateKey =
        Entries.remove (Entries.remove ms clothesKey) stateKey) := by
  cases h with
  | current hflat hclothes => exact ⟨fun _ => rfl, fun h => absurd h hclothes⟩
  | flat hstate hflat =>
    exact ⟨fun _ => Entries.remove_put _ _ _, fun h => absurd h hflat.not_onlyClothes⟩
  | clothes hstate hclothes hcharacter huser =>
    exact ⟨fun h => absurd ⟨hstate, _, hclothes⟩ h, fun _ => Entries.remove_put _ _ _⟩

/-- A member that is an object is there. -/
theorem mem_keys_of_get {k : Text} (h : ms.get k = .obj clothes) : k ∈ ms.map (·.1) := by
  by_contra hk
  rw [Members.get, Entries.get?_eq_none_iff.mpr hk] at h
  cases h

/-- **The clothes go** exactly when they become the state. -/
theorem clothes_go_iff (h : Becomes ms out) :
    (clothesKey ∈ ms.map (·.1) ∧ clothesKey ∉ out.map (·.1)) ↔ OnlyClothes ms := by
  obtain ⟨hkeep, hgo⟩ := remove_of_becomes h
  have hout : clothesKey ∈ out.map (·.1) ↔ clothesKey ∈ (Entries.remove out stateKey).map (·.1) :=
    (Entries.mem_keys_remove clothesKey_ne_stateKey).symm
  constructor
  · rintro ⟨hthere, hgone⟩
    by_contra hnot
    rw [hout, hkeep hnot, Entries.mem_keys_remove clothesKey_ne_stateKey] at hgone
    exact hgone hthere
  · intro honly
    obtain ⟨-, clothes, hclothes⟩ := id honly
    refine ⟨mem_keys_of_get hclothes, ?_⟩
    rw [hout, hgo honly, Entries.mem_keys_remove clothesKey_ne_stateKey]
    exact Entries.notMem_keys_remove ms clothesKey

/-- The clothes of the two speakers become the state. -/
theorem get?_stateKey_of_becomes (h : Becomes ms out)
    (hstate : ∀ state, ms.get stateKey ≠ .obj state) (hclothes : ms.get clothesKey = .obj clothes) :
    ∃ character user, items? (clothes.get characterKey) = some character ∧
      items? (clothes.get userKey) = some user ∧
      out.get? stateKey = some (clothesState character user) := by
  cases h with
  | current hflat hnot => exact absurd ⟨hstate, clothes, hclothes⟩ hnot
  | flat hget hflat => exact absurd hget (hstate _)
  | clothes _ hget hcharacter huser =>
    cases hclothes.symm.trans hget
    exact ⟨_, _, hcharacter, huser, Entries.get?_put_self _ _ _⟩

/-- **Migration settles, and touches nothing else.** What it gives is left alone when it is migrated
again. A value that is no document gives one without members. Of a document, all members but the
state stay as they are and in their order, except clothes that become the state; and a document that
is neither flat nor one of clothes stays as it is. -/
theorem migrate_settles {v : Json} (h : migrate v = some out) :
    migrate (.obj out) = some out ∧
      ((∀ ms, v ≠ .obj ms) → out = []) ∧
      ∀ ms : Members, v = .obj ms →
        (¬ OnlyClothes ms → Entries.remove out stateKey = Entries.remove ms stateKey) ∧
        (OnlyClothes ms → Entries.remove out stateKey =
            Entries.remove (Entries.remove ms clothesKey) stateKey) ∧
        ((clothesKey ∈ ms.map (·.1) ∧ clothesKey ∉ out.map (·.1)) ↔ OnlyClothes ms) ∧
        (∀ clothes : Members, (∀ state, ms.get stateKey ≠ .obj state) →
          ms.get clothesKey = .obj clothes →
          ∃ character user, items? (clothes.get characterKey) = some character ∧
            items? (clothes.get userKey) = some user ∧
            out.get? stateKey = some (clothesState character user)) ∧
        (Flat ms ∨ OnlyClothes ms ∨ out = ms) := by
  cases v with
  | obj ms =>
    have hbecomes := becomes_of_migrate h
    obtain ⟨hkeep, hgo⟩ := remove_of_becomes hbecomes
    refine ⟨migrate_of_becomes hbecomes, fun hnone => absurd rfl (hnone ms), ?_⟩
    rintro _ ⟨⟩
    refine ⟨hkeep, hgo, clothes_go_iff hbecomes,
      fun clothes => get?_stateKey_of_becomes hbecomes, ?_⟩
    cases hbecomes with
    | current hflat hclothes => exact Or.inr (Or.inr rfl)
    | flat hstate hflat => exact Or.inl hflat
    | clothes hstate hclothes hcharacter huser => exact Or.inr (Or.inl ⟨hstate, _, hclothes⟩)
  | _ =>
    -- no document, so there are no members
    obtain rfl := Option.some.inj h
    exact ⟨rfl, fun _ => rfl, nofun⟩

/-- A document of clothes with a state that is null. -/
theorem migrate_settles_clothes :
    let ms : Members := [("worldState", .null), ("clothes", .obj [("user", .arr [.str "hat"])]),
      ("notes", .int 1)]
    let out : Members := [("worldState", clothesState [] [⟨"hat", []⟩]), ("notes", .int 1)]
    migrate (.obj ms) = some out ∧ OnlyClothes ms ∧ migrate (.obj out) = some out := by
  intro ms out
  have h : migrate (.obj ms) = some out := rfl
  obtain ⟨hsettled, -, hrest⟩ := migrate_settles h
  obtain ⟨-, -, hgo, -, -⟩ := hrest ms rfl
  exact ⟨h, hgo.mp ⟨by decide, by decide⟩, hsettled⟩

end Roleplay.Legacy
