import Roleplay.Proofs.World.Entities
import Roleplay.Proofs.World.Labels

/-!
# Recovered states are tidy

Whatever an answer says, the state that is recovered from it has the keys of display names only,
no entity without an attribute, and names and values that are clean. A line adds no more than it
holds, cut at its colon and stripped, so each line is tidy where the reading stands; and the
reading stands in a list only when the entity of the list is there.

## Main definitions

* `Text.Tidy`, `Item.Tidy`, `Attribute.Tidy`, `Entity.Tidy`, `WorldState.Tidy`: clean names and
  values, and at each level nothing twice
* `Line.Tidy`: what a line may add where the reading stands
* `Reading`: the invariant of the reading

## Main results

* `Position.tidy_classify`: every line is tidy
* `Reading.readLine`, `Reading.foldl`: one line and all lines keep the invariant
* `WorldState.tidy_recover`: recovered states are tidy, and have content unless all their
  attributes are lists without items
-/

namespace Roleplay

open Text

/-! ## Tidy states -/

/-- **A tidy name**: a piece of one line, stripped and without a colon. -/
structure Text.Tidy (t : Text) : Prop where
  ne : t ≠ []
  stripped : t.Stripped
  colonFree : ':' ∉ t
  singleLine : t.SingleLine

/-- **A tidy item.** -/
structure Item.Tidy (i : Item) : Prop where
  name : i.name.Tidy
  description_stripped : i.description.Stripped
  description_singleLine : i.description.SingleLine

/-- **A tidy value**: a stripped text on one line that is not empty, or tidy items. -/
def AttributeValue.Tidy : AttributeValue → Prop
  | .text t => t ≠ [] ∧ t.Stripped ∧ t.SingleLine
  | .list items => ∀ i ∈ items, i.Tidy

/-- **A tidy attribute**, its name in small letters. -/
structure Attribute.Tidy (a : Attribute) : Prop where
  name : a.name.Tidy
  small : a.name.lower = a.name
  value : a.value.Tidy

/-- **A tidy entity**: its attributes are, and none has the name of another. -/
structure Entity.Tidy (e : Entity) : Prop where
  distinct : e.Distinct
  attributes : ∀ a ∈ e.attributes, a.Tidy

/-- A key that a display name selects. -/
def Labels.Selects (labels : Labels) (key : Text) : Prop :=
  key ≠ [] ∧ ∃ display, (key, display) ∈ labels ∧ display.strip ≠ []

/-- **A tidy state**: its keys are different and selected by display names, and its entities have
attributes and are tidy. -/
structure WorldState.Tidy (labels : Labels) (s : WorldState) : Prop where
  keys : s.keys.Nodup
  selected : ∀ p ∈ s.entities, labels.Selects p.1
  attributes : ∀ p ∈ s.entities, p.2.attributes ≠ []
  entities : ∀ p ∈ s.entities, p.2.Tidy

theorem WorldState.Tidy.distinct {labels : Labels} {s : WorldState} (h : s.Tidy labels) :
    s.Distinct :=
  ⟨h.keys, fun q hq => (h.entities q hq).distinct⟩

theorem WorldState.tidy_empty (labels : Labels) : WorldState.empty.Tidy labels where
  keys := List.nodup_nil
  selected := by simp [empty]
  attributes := by simp [empty]
  entities := by simp [empty]

/-! ## Tidy lines -/

theorem Text.Tidy.lower {t : Text} (h : t.Tidy) : t.lower.Tidy where
  ne := fun hl => h.ne (lower_eq_nil_iff.mp hl)
  stripped := h.stripped.lower
  colonFree := colon_notMem_lower h.colonFree
  singleLine := h.singleLine.lower

/-- What a line may add where the reading stands. -/
def Line.Tidy (labels : Labels) (p : Position) : Line → Prop
  | .blank => True
  | .dropped => True
  | .header e => labels.Selects e
  | .opening e l => p.entity = some e ∧ l.Tidy ∧ l.lower = l
  | .item e l i => p.entity = some e ∧ p.list = some l ∧ i.Tidy
  | .text e n v => p.entity = some e ∧ (⟨n, .text v⟩ : Attribute).Tidy

section Classify

variable {labels : Labels} {names : EntityNames} {p : Position} {label value : Text}

theorem EntityNames.selects_of_select? {key : Text}
    (h : (EntityNames.ofLabels labels).select? label = some key) : labels.Selects key := by
  obtain ⟨hne, n, hn, -⟩ := select?_mem h
  obtain ⟨display, hmem, hs, -⟩ := mem_ofLabels.mp hn
  exact ⟨hne, display, hmem, hs⟩

/-- A label with nothing after its colon. -/
theorem Position.tidy_classifyHeader (hl : label.Tidy) (indented : Bool) :
    (p.classifyHeader (.ofLabels labels) indented label).Tidy labels p := by
  rw [classifyHeader]
  split
  · next e l he hlist _ =>
    exact ⟨he, hlist, hl, rfl, fun _ hc => absurd hc List.not_mem_nil⟩
  · split
    · next e hs => exact EntityNames.selects_of_select? hs
    · next e hs he => exact ⟨he, hl.lower, lower_lower label⟩
    · trivial

/-- A label with a value. -/
theorem Position.tidy_classifyPair (hl : label.Tidy) (hne : value ≠ []) (hv : value.Stripped)
    (hv' : value.SingleLine) : (p.classifyPair label value).Tidy labels p := by
  rw [classifyPair]
  split
  · next e l he hlist => exact ⟨he, hlist, hl, hv, hv'⟩
  · next e he hlist => exact ⟨he, hl.lower, lower_lower label, hne, hv, hv'⟩
  · trivial

/-- **Every line is tidy** where the reading stands. -/
theorem Position.tidy_classify (p : Position) {raw : Text} (h : raw.SingleLine) :
    (p.classify (.ofLabels labels) raw).Tidy labels p := by
  rw [classify]
  split
  · trivial
  · have hbody : (dropBullet? raw.strip).getD raw.strip ⊆ raw := by
      refine fun c hc => (strip_isInfix raw).subset ?_
      cases hb : dropBullet? raw.strip with
      | none => rwa [hb] at hc
      | some body => exact dropBullet?_subset hb (by rwa [hb] at hc)
    split
    · trivial
    · -- a line with a colon: its parts are pieces of the line
      next label value hsplit =>
      obtain ⟨hcolon, hlabel, hvalue⟩ := splitColon?_eq_some hsplit
      have hclean : cleanLabel label ⊆ label := (cleanLabel_isInfix label).subset
      have hsingle : (cleanValue value).SingleLine :=
        h.mono (List.Subset.trans (cleanValue_isInfix value).subset
          (List.Subset.trans hvalue hbody))
      simp only
      split
      · trivial
      · next hne =>
        have hl : (cleanLabel label).Tidy :=
          ⟨by simpa using hne, stripped_cleanLabel label, fun hc => hcolon (hclean hc),
            h.mono (List.Subset.trans hclean (List.Subset.trans hlabel hbody))⟩
        split
        · -- under a bullet
          next e l _ he hlist => exact ⟨he, hlist, hl, stripped_cleanValue value, hsingle⟩
        · split
          · exact tidy_classifyHeader hl _
          · next hv =>
            exact tidy_classifyPair hl (by simpa using hv) (stripped_cleanValue value) hsingle

end Classify

/-! ## What a line adds -/

namespace Entity

theorem tidy_empty : Entity.empty.Tidy :=
  ⟨distinct_empty, fun _ ha => absurd ha List.not_mem_nil⟩

theorem Tidy.set {e : Entity} (h : e.Tidy) {a : Attribute} (ha : a.Tidy) : (e.set a).Tidy := by
  refine ⟨h.distinct.set a, fun b hb => ?_⟩
  rcases mem_setIn hb with rfl | hb
  · exact ha
  · exact h.attributes b hb

theorem Tidy.openList {e : Entity} (h : e.Tidy) {name : Text} (hn : name.Tidy)
    (hs : name.lower = name) : (e.openList name).Tidy := by
  rw [Entity.openList]
  split
  · exact h
  · exact h.set ⟨hn, hs, fun _ hi => absurd hi List.not_mem_nil⟩

theorem Tidy.putText {e : Entity} (h : e.Tidy) {name value : Text}
    (ha : (⟨name, .text value⟩ : Attribute).Tidy) : (e.putText name value).Tidy := by
  rw [Entity.putText]
  split
  · exact h
  · exact h.set ha

theorem Tidy.append {e : Entity} (h : e.Tidy) (name : Text) {i : Item} (hi : i.Tidy) :
    (e.append name i).Tidy := by
  refine ⟨h.distinct.append name i, fun b hb => ?_⟩
  rcases mem_appendIn hb with hb | ⟨a, ha, items, hv, rfl⟩
  · exact h.attributes b hb
  · have hitems : ∀ j ∈ items, j.Tidy := by
      have := (h.attributes a ha).value
      rwa [hv] at this
    refine ⟨(h.attributes a ha).name, (h.attributes a ha).small, fun j hj => ?_⟩
    rcases List.mem_append.mp hj with hj | hj
    · exact hitems j hj
    · exact List.mem_singleton.mp hj ▸ hi

theorem openList_ne_nil (e : Entity) (name : Text) : (e.openList name).attributes ≠ [] := by
  rw [openList]
  split
  · next h => exact ne_nil_of_find?_eq_some h
  · exact setIn_ne_nil _ _

theorem putText_ne_nil (e : Entity) (name value : Text) :
    (e.putText name value).attributes ≠ [] := by
  rw [putText]
  split
  · next h => exact ne_nil_of_find?_eq_some h
  · exact setIn_ne_nil _ _

theorem append_ne_nil {e : Entity} (h : e.attributes ≠ []) (name : Text) (i : Item) :
    (e.append name i).attributes ≠ [] := by
  intro hnil
  have := congrArg (List.map (·.key)) hnil
  rw [append, map_key_appendIn] at this
  exact h (List.map_eq_nil_iff.mp this)

end Entity

namespace WorldState

variable {labels : Labels} {s : WorldState}

theorem Tidy.get (h : s.Tidy labels) (key : Text) : (s.get key).Tidy := by
  rw [WorldState.get]
  cases he : s.find? key with
  | none => exact Entity.tidy_empty
  | some e => exact h.entities _ (mem_entities_of_find?_eq_some he)

/-- A change of an entity that leaves it tidy and not empty. -/
theorem Tidy.modify (h : s.Tidy labels) {key : Text} (hk : labels.Selects key)
    {f : Entity → Entity} (hf : (f (s.get key)).Tidy) (hne : (f (s.get key)).attributes ≠ []) :
    (s.modify key f).Tidy labels where
  keys := nodup_keys_modify h.keys key f
  selected := fun p hp => (mem_modifyIn hp).elim (h.selected p) fun hp => hp ▸ hk
  attributes := fun p hp => (mem_modifyIn hp).elim (h.attributes p) fun hp => hp ▸ hne
  entities := fun p hp => (mem_modifyIn hp).elim (h.entities p) fun hp => hp ▸ hf

end WorldState

/-! ## The reading -/

/-- **The invariant of the reading**: the state is tidy, the selected entity has a display name,
and while a list is open the state has that entity. -/
structure Reading (labels : Labels) (p : Position) (s : WorldState) : Prop where
  state : s.Tidy labels
  selected : ∀ e, p.entity = some e → labels.Selects e
  opened : ∀ e, p.entity = some e → p.list ≠ none → e ∈ s.keys

namespace Reading

variable {labels : Labels} {p : Position} {s : WorldState}

theorem start (labels : Labels) : Reading labels .start .empty where
  state := WorldState.tidy_empty labels
  selected := fun _ h => by cases h
  opened := fun _ h => by cases h

/-- A tidy line keeps the invariant. -/
theorem record (h : Reading labels p s) {line : Line} (hl : line.Tidy labels p) :
    Reading labels (p.after line) (s.record line) := by
  cases line with
  | blank => exact ⟨h.state, h.selected, fun e _ hlist => absurd rfl hlist⟩
  | dropped => exact h
  | header e =>
    refine ⟨h.state, fun e' he => ?_, fun e' _ hlist => absurd rfl hlist⟩
    exact Option.some.inj he ▸ hl
  | opening e l =>
    -- the entity is made here at the latest, so it is there while the list is open
    obtain ⟨he, hname, hsmall⟩ := hl
    refine ⟨?_, fun e' he' => ?_, fun e' he' _ => ?_⟩
    · exact h.state.modify (h.selected e he) ((h.state.get e).openList hname hsmall)
        (Entity.openList_ne_nil _ _)
    · exact Option.some.inj he' ▸ h.selected e he
    · rw [← Option.some.inj he']
      exact s.mem_keys_modify e _
  | item e l i =>
    -- an item makes no entity, but that of an open list is there
    obtain ⟨he, hlist, hi⟩ := hl
    have hmem : e ∈ s.keys := h.opened e he (hlist ▸ Option.some_ne_none l)
    have hne : (s.get e).attributes ≠ [] := by
      rw [WorldState.get]
      cases hf : s.find? e with
      | none => exact absurd hmem (WorldState.find?_eq_none_iff.mp hf)
      | some ent => exact h.state.attributes _ (WorldState.mem_entities_of_find?_eq_some hf)
    refine ⟨?_, h.selected, fun e' he' hlist' => ?_⟩
    · exact h.state.modify (h.selected e he) ((h.state.get e).append l hi)
        (Entity.append_ne_nil hne l i)
    · exact s.keys_subset_modify e _ (h.opened e' he' hlist')
  | text e n v =>
    -- a text opens no list, and no key is lost
    obtain ⟨he, ha⟩ := hl
    refine ⟨?_, h.selected, fun e' he' hlist => ?_⟩
    · exact h.state.modify (h.selected e he) ((h.state.get e).putText ha)
        (Entity.putText_ne_nil _ _ _)
    · exact s.keys_subset_modify e _ (h.opened e' he' hlist)

/-- **One line keeps the invariant.** -/
theorem readLine (h : Reading labels p s) {raw : Text} (hraw : raw.SingleLine) :
    Reading labels (readLine (.ofLabels labels) (p, s) raw).1
      (readLine (.ofLabels labels) (p, s) raw).2 :=
  h.record (Position.tidy_classify p hraw)

/-- **All lines keep the invariant.** -/
theorem foldl (h : Reading labels p s) {lines : List Text} (hl : ∀ l ∈ lines, l.SingleLine) :
    Reading labels (lines.foldl (Roleplay.readLine (.ofLabels labels)) (p, s)).1
      (lines.foldl (Roleplay.readLine (.ofLabels labels)) (p, s)).2 := by
  induction lines generalizing p s with
  | nil => exact h
  | cons l ls ih =>
    exact ih (h.readLine (hl l List.mem_cons_self)) fun m hm => hl m (List.mem_cons_of_mem l hm)

end Reading

/-! ## Recovered states -/

/-- In a tidy state only lists without items have no content. -/
theorem Attribute.Tidy.hasContent_eq_false_iff {a : Attribute} (h : a.Tidy) :
    a.hasContent = false ↔ a.value = .list [] := by
  obtain ⟨-, -, hv⟩ := h
  rw [hasContent]
  cases ha : a.value with
  | text t =>
    rw [ha] at hv
    obtain ⟨hne, hs, -⟩ := hv
    have hs : t.strip = t := hs
    simp [AttributeValue.hasContent, hs, hne]
  | list items => simp [AttributeValue.hasContent]

theorem WorldState.Tidy.hasContent_eq_false_iff {labels : Labels} {s : WorldState}
    (h : s.Tidy labels) :
    s.hasContent = false ↔ ∀ p ∈ s.entities, ∀ a ∈ p.2.attributes, a.value = .list [] := by
  simp only [hasContent, Entity.hasContent, List.any_eq_false, Bool.not_eq_true]
  refine forall₂_congr fun p hp => forall₂_congr fun a ha => ?_
  exact ((h.entities p hp).attributes a ha).hasContent_eq_false_iff

theorem WorldState.recoverContent?_eq_none_iff {labels : Labels} {t : Text} :
    recoverContent? labels t = none ↔ (recover labels t).hasContent = false := by
  rw [recoverContent?]
  cases (recover labels t).hasContent <;> simp

theorem WorldState.eq_recover_of_recoverContent?_eq_some {labels : Labels} {t : Text}
    {s : WorldState} (h : recoverContent? labels t = some s) : s = recover labels t := by
  rw [recoverContent?] at h
  split at h
  · exact (Option.some.inj h).symm
  · cases h

theorem WorldState.recover_tidy (labels : Labels) (t : Text) : (recover labels t).Tidy labels :=
  ((Reading.start labels).foldl fun _ => singleLine_of_mem_lines).state

/-- **Recovered states are tidy.** Whatever the answer and the display names, the keys are those of
display names, every entity has an attribute, and names and values are clean. There is no state
with content exactly when all attributes are lists without items. -/
theorem WorldState.tidy_recover (labels : Labels) (t : Text) :
    (recover labels t).Tidy labels ∧
      (recoverContent? labels t = none ↔
        ∀ p ∈ (recover labels t).entities, ∀ a ∈ p.2.attributes, a.value = .list []) ∧
      ∀ s, recoverContent? labels t = some s → s = recover labels t := by
  have h := recover_tidy labels t
  refine ⟨h, ?_, fun s => eq_recover_of_recoverContent?_eq_some⟩
  rw [recoverContent?_eq_none_iff, h.hasContent_eq_false_iff]

end Roleplay
