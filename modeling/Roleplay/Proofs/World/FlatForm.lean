import Mathlib.Data.List.ReduceOption
import Roleplay.Proofs.World.Documents

/-!
# Documents in the flat form

An entity in the flat form holds what is known about it as members of its own. Three loops migrate
it: the known texts, the known lists, and everything else in the order of the document. Between them
every member that can be kept gives one attribute of its name; the others, and they only, are
dropped. So when the names of the members are distinct whatever the case of their letters, no
attribute takes the place of another, and nothing is lost.

What is listed under a name may be anything. The items are settled for *plain* entries: texts, and
objects whose name and description are texts or missing.

## Main definitions

* `Legacy.keeps`: the members that are kept
* `Legacy.names`, `Legacy.migrated`: the names of a flat entity in the order of its attributes, and
  the attributes
* `Legacy.Plain`: plain entries, and the items that they give
* `Legacy.Migrated`: an entity that holds what a flat one held

## Main results

* `Legacy.attributes_eq`: the three loops give every member that is kept once
* `Legacy.migrated_of_flat`: nothing of a flat entity is lost
* `WorldInfo.ofJson_flat`: nothing of a flat document is lost
-/

namespace Roleplay

namespace Legacy

/-! ## What a flat entity holds -/

/-- The names that come first. -/
def knownNames : List Text :=
  knownTexts ++ knownLists

/-- **The members that are kept**: lists, unless a text is known under the name, and texts, unless a
list is known under it; a known text must not be empty. -/
def keeps (name : Text) : Json → Bool
  | .str s => name ∉ knownLists && (name ∉ knownTexts || !s.isEmpty)
  | .arr _ => name ∉ knownTexts
  | _ => false

/-- **The names of a flat entity** in the order of its attributes: those that are known, and the
others as they stand in the document. -/
def names (entity : Members) : List Text :=
  knownNames ++ (entity.map (·.1)).filter (· ∉ knownNames)

/-- The attribute that a member gives. -/
def attribute? (name : Text) (v : Json) : Option Attribute :=
  if keeps name v then
    match v with
    | .str s => some ⟨name, .text s⟩
    | .arr xs => some ⟨name, .list (xs.filterMap item?)⟩
    | _ => none
  else none

/-- **The attributes of a flat entity.** -/
def migrated (entity : Members) : List Attribute :=
  (names entity).filterMap fun name => attribute? name (entity.get name)

theorem map_name_attribute? (name : Text) (v : Json) :
    (attribute? name v).map (·.name) = if keeps name v then some name else none := by
  unfold attribute?
  split
  · next h => cases v <;> first | rfl | cases h
  · rfl

/-! ## The three loops -/

section Loops

variable {entity : Members}

theorem knownText?_eq {name : Text} (h : name ∈ knownTexts) :
    knownText? entity name = (attribute? name (entity.get name)).map Attribute.toJson := by
  have hlist : name ∉ knownLists := by
    revert name
    decide
  unfold knownText? attribute?
  cases entity.get name with
  | str s =>
    cases hs : s.isEmpty
    · simp [keeps, h, hlist, hs]
      rfl
    · simp [keeps, h, hs]
  | arr xs => simp [keeps, h]
  | _ => rfl

theorem list?_eq {name : Text} (h : name ∈ knownLists) (v : Json) :
    list? name v = (attribute? name v).map Attribute.toJson := by
  have htext : name ∉ knownTexts := by
    revert name
    decide
  unfold list? attribute?
  cases v with
  | str s => simp [keeps, h]
  | arr xs => simp [keeps, htext]; rfl
  | _ => rfl

theorem other?_eq {name : Text} (h : name ∉ knownNames) (v : Json) :
    other? name v = (attribute? name v).map Attribute.toJson := by
  rw [knownNames, List.mem_append, not_or] at h
  unfold other? attribute?
  cases v with
  | str s => simp [keeps, h]; rfl
  | arr xs => simp [keeps, h]; rfl
  | _ => rfl

/-- **The three loops** give every member that is kept once, when no name is there twice. -/
theorem attributes_eq (hnodup : (entity.map (·.1)).Nodup) :
    attributes entity = (migrated entity).map Attribute.toJson := by
  have hfirst : knownTexts.filterMap (knownText? entity)
      ++ knownLists.filterMap (fun name => list? name (entity.get name)) =
      (knownNames.filterMap fun name => attribute? name (entity.get name)).map
        Attribute.toJson := by
    rw [knownNames, List.filterMap_append, List.map_append, List.map_filterMap, List.map_filterMap]
    exact congrArg₂ _ (List.filterMap_congr fun name h => knownText?_eq h)
      (List.filterMap_congr fun name h => list?_eq h _)
  have hothers : (entity.filter fun m => m.1 ∉ knownNames).filterMap (fun m => other? m.1 m.2) =
      (((entity.map (·.1)).filter (· ∉ knownNames)).filterMap
        fun name => attribute? name (entity.get name)).map Attribute.toJson := by
    rw [List.map_filterMap, List.filter_map, List.filterMap_map]
    refine List.filterMap_congr fun m hm => ?_
    obtain ⟨hmem, hname⟩ := List.mem_filter.mp hm
    -- the value of a name is that of its only member
    have hget : entity.get m.1 = m.2 := by
      rw [Members.get, Entries.get?_eq_some_of_mem hnodup hmem]
      rfl
    rw [other?_eq (by simpa using hname)]
    simp only [Function.comp_def, hget]
  rw [migrated, names, List.filterMap_append, List.map_append, ← hfirst, ← hothers]
  rfl

end Loops

/-! ## Nothing is lost -/

/-- A text, or nothing in its place. -/
def plainText? : Json → Option Text
  | .str s => some s
  | .null => some []
  | _ => none

/-- **A plain entry, and the item that it gives**: a text, or an object whose name and description
are texts or missing. A blank text and an object without a name give none. -/
inductive Plain : Json → Option Item → Prop
  | text (s : Text) : Plain (.str s) (if s.strip = [] then none else some ⟨s.strip, []⟩)
  | object {ms : Members} {name description : Text}
      (hname : plainText? (Members.get ms "name") = some name)
      (hdescription : plainText? (Members.get ms "description") = some description) :
      Plain (.obj ms) (if name = [] then none else some ⟨name, description⟩)

theorem isTruthy_iff_of_plainText? {v : Json} {t : Text} (h : plainText? v = some t) :
    v.isTruthy = true ↔ t ≠ [] := by
  cases v <;> cases h <;> simp [Json.isTruthy]

theorem shown_of_plainText? {v : Json} {t : Text} (h : plainText? v = some t) :
    (if v.isTruthy then v.shown else []) = t := by
  cases v <;> cases h
  · rfl
  · by_cases ht : t = []
    · simp [Json.isTruthy, ht]
    · simp [Json.isTruthy, Json.shown, ht]

theorem Plain.item?_eq {v : Json} {i : Option Item} (h : Plain v i) : item? v = i := by
  cases h with
  | text s =>
    rw [item?]
    simp only [List.isEmpty_iff]
  | @object ms name description hname hdescription =>
    have hshown := shown_of_plainText? hname
    simp only [item?, shown_of_plainText? hdescription]
    by_cases hempty : name = []
    · rw [if_neg (by rw [isTruthy_iff_of_plainText? hname]; exact not_not_intro hempty),
        if_pos hempty]
    · have htruthy := (isTruthy_iff_of_plainText? hname).mpr hempty
      rw [if_pos htruthy] at hshown
      rw [if_pos htruthy, if_neg hempty, hshown]

theorem filterMap_item?_of_plain {xs : List Json} {is : List (Option Item)}
    (h : List.Forall₂ Plain xs is) : xs.filterMap item? = is.reduceOption := by
  induction h with
  | nil => rfl
  | @cons v i xs is hv _ ih =>
    have hitem := hv.item?_eq
    cases i with
    | none => rw [List.filterMap_cons_none hitem, List.reduceOption_cons_of_none, ih]
    | some i => rw [List.filterMap_cons_some hitem, List.reduceOption_cons_of_some, ih]

/-- **An entity that holds what a flat one held**: one attribute for each member that is kept, those
with known names first; texts as they were, and lists with the items of their entries. -/
structure Migrated (entity : Members) (e : Entity) : Prop where
  names : e.attributes.map (·.name) = (names entity).filter fun name => keeps name (entity.get name)
  text : ∀ name s, entity.get? name = some (.str s) → keeps name (.str s) = true →
    ⟨name, .text s⟩ ∈ e.attributes ∧ e.text name = s
  list : ∀ name xs, entity.get? name = some (.arr xs) → keeps name (.arr xs) = true →
    ⟨name, .list (e.list name)⟩ ∈ e.attributes ∧
      ∀ is, List.Forall₂ Plain xs is → e.list name = is.reduceOption

section Migrated

variable {entity : Members}

theorem map_name_migrated (entity : Members) :
    (migrated entity).map (·.name) =
      (names entity).filter fun name => keeps name (entity.get name) := by
  rw [migrated, List.map_filterMap, ← List.filterMap_eq_filter]
  refine List.filterMap_congr fun name _ => ?_
  rw [map_name_attribute?]
  simp [Option.guard]

/-- The names of the attributes are names of members, each once. -/
theorem nodup_names_migrated (hnodup : (entity.map (·.1)).Nodup) :
    ((migrated entity).map (·.name)).Nodup ∧
      ∀ name ∈ (migrated entity).map (·.name), name ∈ entity.map (·.1) := by
  rw [map_name_migrated]
  constructor
  · refine List.Nodup.filter _ (List.nodup_append.mpr ⟨by decide, hnodup.filter _, ?_⟩)
    rintro a ha b hb rfl
    simp [ha] at hb
  · intro name hname
    obtain ⟨-, hkeeps⟩ := List.mem_filter.mp hname
    -- no member of the name would be null, which is not kept
    by_contra hnot
    rw [Members.get, Entries.get?_eq_none_iff.mpr hnot] at hkeeps
    cases hkeeps

theorem distinct_migrated (h : (entity.map fun m => m.1.lower).Nodup) :
    (Entity.mk (migrated entity)).Distinct := by
  have hlower : ((entity.map (·.1)).map Text.lower).Nodup := by
    rwa [List.map_map]
  obtain ⟨hnodup, hmem⟩ := nodup_names_migrated (List.Nodup.of_map _ hlower)
  have hkeys : (migrated entity).map (·.key) = ((migrated entity).map (·.name)).map Text.lower := by
    rw [List.map_map]
    rfl
  -- names of members that are told apart are told apart in lower case
  rw [Entity.Distinct, hkeys]
  exact List.Nodup.map_on (fun a ha b hb hab =>
    List.inj_on_of_nodup_map hlower (hmem a ha) (hmem b hb) hab) hnodup

/-- A member that is kept gives its attribute, in one place or the other. -/
theorem mem_migrated {name : Text} {v : Json} (hv : entity.get? name = some v) {a : Attribute}
    (ha : attribute? name v = some a) : a ∈ migrated entity := by
  have hname : name ∈ names entity := by
    by_cases hknown : name ∈ knownNames
    · exact List.mem_append_left _ hknown
    · refine List.mem_append_right _ (List.mem_filter.mpr ⟨?_, by simpa using hknown⟩)
      by_contra hnot
      rw [Entries.get?_eq_none_iff.mpr hnot] at hv
      cases hv
  refine List.mem_filterMap.mpr ⟨name, hname, ?_⟩
  rw [Members.get, hv]
  exact ha

/-- **Nothing of a flat entity is lost.** -/
theorem migrated_of_flat (h : (entity.map fun m => m.1.lower).Nodup) :
    Migrated entity ⟨migrated entity⟩ where
  names := map_name_migrated entity
  text := by
    intro name s hs hkeeps
    have hmem : ⟨name, .text s⟩ ∈ migrated entity :=
      mem_migrated hs (by rw [attribute?, if_pos hkeeps])
    have hfind := Entity.find?_eq_some_of_mem (distinct_migrated h) hmem
    exact ⟨hmem, by rw [Entity.text, hfind]⟩
  list := by
    intro name xs hxs hkeeps
    have hmem : ⟨name, .list (xs.filterMap item?)⟩ ∈ migrated entity :=
      mem_migrated hxs (by rw [attribute?, if_pos hkeeps])
    have hfind := Entity.find?_eq_some_of_mem (distinct_migrated h) hmem
    have hlist : (Entity.mk (migrated entity)).list name = xs.filterMap item? := by
      rw [Entity.list, hfind]
    rw [hlist]
    exact ⟨hmem, fun is his => filterMap_item?_of_plain his⟩

end Migrated

/-- **The entities of a flat state** are its objects, in their order, each with what it held. -/
theorem entities_of_flat {state : Members}
    (h : ∀ key entity, (key, Json.obj entity) ∈ state → (entity.map fun m => m.1.lower).Nodup) :
    ∃ es : List (Text × Entity), entities state = (es.map fun (k, e) => (k, e.toJson)) ∧
      (∀ q ∈ es, q.2.Distinct) ∧
      List.Forall₂ (fun m q => q.1 = m.1 ∧ ∃ entity, m.2 = .obj entity ∧ Migrated entity q.2)
        (state.filter (·.2 matches .obj _)) es := by
  -- the state is read from its end, and an object comes before the entities behind it
  induction state with
  | nil => exact ⟨[], rfl, nofun, .nil⟩
  | cons m state ih =>
    obtain ⟨key, v⟩ := m
    obtain ⟨es, hes, hdistinct, hheld⟩ := ih fun k w hw => h k w (List.mem_cons_of_mem _ hw)
    cases v with
    | obj entity =>
      have hnames := h key entity List.mem_cons_self
      refine ⟨(key, ⟨migrated entity⟩) :: es, ?_, ?_, ?_⟩
      · rw [List.map_cons, ← hes, entities, List.filterMap_cons]
        show (key, entityJson (attributes entity)) :: _ = _
        rw [attributes_eq (List.Nodup.of_map Text.lower (by rwa [List.map_map]))]
        rfl
      · exact List.forall_mem_cons.mpr ⟨distinct_migrated hnames, hdistinct⟩
      · exact .cons ⟨rfl, entity, rfl, migrated_of_flat hnames⟩ hheld
    | _ => exact ⟨es, hes, hdistinct, hheld⟩

end Legacy

namespace WorldInfo

/-- **Nothing of a flat document is lost.** A document whose first entity is not in the current form
can be read when the names in each entity are distinct whatever the case of their letters. The
entities of its state are the objects of the document's, in their order; each has one attribute for
each member that is kept, and the texts and the items that were there. The other members of the
document stay. -/
theorem ofJson_flat {ms state : Members} (hstate : ms.get? Legacy.stateKey = some (.obj state))
    (hflat : Legacy.isFlat state = true)
    (hdistinct : ∀ key entity, (key, Json.obj entity) ∈ state →
      (entity.map fun m => m.1.lower).Nodup) :
    ∃ s : WorldState, ofJson (.obj ms) = .ok ⟨some s, ms.remove Legacy.stateKey⟩ ∧
      List.Forall₂
        (fun m q => q.1 = m.1 ∧ ∃ entity, m.2 = .obj entity ∧ Legacy.Migrated entity q.2)
        (state.filter (·.2 matches .obj _)) s.entities := by
  obtain ⟨es, hes, hentities, hheld⟩ := Legacy.entities_of_flat hdistinct
  refine ⟨⟨es⟩, ?_, hheld⟩
  have hmigrate : Legacy.migrate (.obj ms) =
      some (Entries.put ms Legacy.stateKey (.obj (Legacy.entities state))) := by
    simp only [Legacy.migrate, Members.get, hstate, Option.getD_some, hflat, if_true]
  have hread : Checked.members Entity.ofJson (Legacy.entities state) = .valid es := by
    rw [hes]
    exact Checked.members_map fun q hq => (Entity.current_toJson (hentities q hq)).ofJson_eq
  -- the new state stands in the place of the old one, so what is left without it is the same
  rw [ofJson, hmigrate]
  simp only [ofMembers_of_state (Entries.get?_put_self ms _ _) hread, Entries.remove_put]

/-- Clothes in a text, in objects and in nothing that counts, a text under a name of its own, and
beside them a member of the state that is no entity. -/
theorem ofJson_flat_clothes :
    let aria : Members :=
      [("hair", .str []), ("age", .int 30),
        ("clothes", .arr [.str " red hat ", .obj [("name", .str "boots"), ("description", .null)],
          .str " ", .obj []]),
        ("mood", .str "calm")]
    let state : Members := [("character", .obj aria), ("place", .str "inn"), ("user", .obj [])]
    ∃ (s : WorldState) (e : Entity),
      ofJson (.obj [("notes", .null), ("worldState", .obj state)]) =
          .ok ⟨some s, [("notes", .null)]⟩ ∧
        s.keys = ["character", "user"] ∧ s.find? "character" = some e ∧
        e.attributes.map (·.name) = ["mood", "clothes", "hair"] ∧ e.text "mood" = "calm" ∧
        e.list "clothes" = [⟨"red hat", []⟩, ⟨"boots", []⟩] := by
  intro aria state
  have hdistinct : ∀ key entity, (key, Json.obj entity) ∈ state →
      (entity.map fun m => m.1.lower).Nodup := by
    intro key entity h
    rcases List.mem_cons.mp h with h | h
    · cases h
      decide
    · rcases List.mem_cons.mp h with h | h
      · cases h
      · cases List.mem_singleton.mp h
        exact List.nodup_nil
  have hstate : Entries.get? (α := Json) [("notes", .null), ("worldState", .obj state)]
      Legacy.stateKey = some (.obj state) := rfl
  obtain ⟨s, hread, hheld⟩ := ofJson_flat hstate rfl hdistinct
  obtain ⟨es⟩ := s
  rcases hheld with _ | ⟨⟨hkey, entity, hentity, hmigrated⟩, hrest⟩
  rcases hrest with _ | ⟨⟨hkey', -⟩, hend⟩
  cases hend
  cases hentity
  have hclothes := (hmigrated.list "clothes" _ rfl rfl).2 _
    (.cons (.text _) (.cons (.object rfl rfl) (.cons (.text _) (.cons (.object rfl rfl) .nil))))
  refine ⟨_, _, hread, ?_, ?_, hmigrated.names, (hmigrated.text "mood" _ rfl rfl).2, hclothes⟩
  · rw [WorldState.keys, List.map_cons, List.map_cons, hkey, hkey']
    rfl
  · rw [WorldState.find?, List.lookup_cons, hkey]
    rfl

end WorldInfo

end Roleplay
