import Roleplay.Proofs.Entries
import Roleplay.Proofs.World.Recovered
import Roleplay.Proofs.World.SheetReading

/-!
# Recovered states are read back

A state that was recovered from an answer is shown to the model as a sheet. Almost all that the sheet
needs to be read back holds of every recovered state: its keys are selected by their display names,
no list is named as an entity, and its names and values are pieces of a line. What is left to ask is
that nothing is taken from them a second time, since cleaning takes one layer of marks only, and that
no item without a description is named as an entity is, since such an item is read as a header.

## Main definitions

* `Text.Settled`, `Item.Settled`, `Attribute.Settled`, `WorldState.Settled`: what is read again as
  it stands
* `Text.IsHeading`: a display name that is read again as it stands
* `WorldState.SameContent`: of every entity the same attributes with content
* `EntityNames.Reaches`: a key that a line can select
* `Selection`: the invariant of the reading

## Main results

* `Position.selected_classify`: every line keeps to the names
* `Selection.readLine`, `Selection.foldl`: one line and all lines keep the invariant
* `EntityNames.Reaches.heads`: what a line could select, its display name selects
* `WorldState.recover_sheet_recover`: settled states are read back
-/

namespace Roleplay

open Text

/-! ## Settled states -/

/-- **A settled name**: it begins with no bullet, and cleaning leaves it as it is. -/
structure Text.Settled (t : Text) : Prop where
  noBullet : ∀ m ∈ bulletMarks, ¬ m <+: t
  clean : cleanLabel t = t

/-- **A settled item.** Without a description it must not be named exactly as an entity is. -/
structure Item.Settled (names : EntityNames) (i : Item) : Prop where
  name : i.name.Settled
  description : cleanValue i.description = i.description
  bare : i.description = [] → names.isExact i.name = false

/-- **A settled value.** -/
def AttributeValue.Settled (names : EntityNames) : AttributeValue → Prop
  | .text t => cleanValue t = t
  | .list items => ∀ i ∈ items, i.Settled names

/-- **A settled attribute.** -/
structure Attribute.Settled (names : EntityNames) (a : Attribute) : Prop where
  name : a.name.Settled
  value : a.value.Settled names

/-- **A heading**: a display name on one line that loses nothing but blanks before its colon. -/
structure Text.IsHeading (t : Text) : Prop where
  singleLine : t.SingleLine
  noBullet : ∀ m ∈ bulletMarks, ¬ m <+: t.dropWhile isBlank
  clean : cleanLabel t = t.strip

/-- **A settled state**: what its sheet shows is settled, under display names that are headings. -/
structure WorldState.Settled (labels : Labels) (s : WorldState) : Prop where
  headings : ∀ q ∈ s.entities, q.2.hasContent = true → (labels.display q.1).IsHeading
  attributes : ∀ q ∈ s.entities, ∀ a ∈ q.2.attributes, a.hasContent = true →
    a.Settled (.ofLabels labels)

instance (t : Text) : Decidable t.Settled :=
  decidable_of_iff ((∀ m ∈ bulletMarks, ¬ m <+: t) ∧ cleanLabel t = t)
    ⟨fun ⟨h₁, h₂⟩ => ⟨h₁, h₂⟩, fun h => ⟨h.noBullet, h.clean⟩⟩

instance (names : EntityNames) (i : Item) : Decidable (i.Settled names) :=
  decidable_of_iff
    (i.name.Settled ∧ cleanValue i.description = i.description ∧
      (i.description = [] → names.isExact i.name = false))
    ⟨fun ⟨h₁, h₂, h₃⟩ => ⟨h₁, h₂, h₃⟩, fun h => ⟨h.name, h.description, h.bare⟩⟩

instance (names : EntityNames) (v : AttributeValue) : Decidable (v.Settled names) :=
  match v with
  | .text t => inferInstanceAs (Decidable (cleanValue t = t))
  | .list items => inferInstanceAs (Decidable (∀ i ∈ items, i.Settled names))

instance (names : EntityNames) (a : Attribute) : Decidable (a.Settled names) :=
  decidable_of_iff (a.name.Settled ∧ a.value.Settled names)
    ⟨fun ⟨h₁, h₂⟩ => ⟨h₁, h₂⟩, fun h => ⟨h.name, h.value⟩⟩

instance (t : Text) : Decidable t.IsHeading :=
  decidable_of_iff
    (t.SingleLine ∧ (∀ m ∈ bulletMarks, ¬ m <+: t.dropWhile isBlank) ∧ cleanLabel t = t.strip)
    ⟨fun ⟨h₁, h₂, h₃⟩ => ⟨h₁, h₂, h₃⟩, fun h => ⟨h.singleLine, h.noBullet, h.clean⟩⟩

instance (labels : Labels) (s : WorldState) : Decidable (s.Settled labels) :=
  decidable_of_iff
    ((∀ q ∈ s.entities, q.2.hasContent = true → (labels.display q.1).IsHeading) ∧
      ∀ q ∈ s.entities, ∀ a ∈ q.2.attributes, a.hasContent = true → a.Settled (.ofLabels labels))
    ⟨fun ⟨h₁, h₂⟩ => ⟨h₁, h₂⟩, fun h => ⟨h.headings, h.attributes⟩⟩

/-- **The same content**: of every entity the same attributes with content. -/
def WorldState.SameContent (s u : WorldState) : Prop :=
  ∀ (key : Text) (a : Attribute), a.hasContent = true →
    (a ∈ (s.get key).attributes ↔ a ∈ (u.get key).attributes)

/-! ## What a line can select -/

variable {names : EntityNames} {p : Position} {s : WorldState}

/-- **A key that a line can select**: the label of a line has no colon. -/
def EntityNames.Reaches (names : EntityNames) (key : Text) : Prop :=
  ∃ label, ':' ∉ label ∧ names.select? label = some key

/-- What a line may mean where the reading stands: it speaks of the selected entity or selects one
that it can, and the list that it opens is named as no entity. -/
def Line.Selected (names : EntityNames) (p : Position) : Line → Prop
  | .blank => True
  | .dropped => True
  | .header e => names.Reaches e
  | .opening e l => p.entity = some e ∧ names.select? l = none
  | .item e _ _ => p.entity = some e
  | .text e _ _ => p.entity = some e

theorem Position.selected_classifyHeader {label : Text} (hcolon : ':' ∉ label) (indented : Bool) :
    (p.classifyHeader names indented label).Selected names p := by
  rw [classifyHeader]
  split
  · next he _ _ => exact he
  · split
    · next hs => exact ⟨label, hcolon, hs⟩
    · next hs he => exact ⟨he, (names.select?_lower label).trans hs⟩
    · trivial

theorem Position.selected_classifyPair (label value : Text) :
    (p.classifyPair label value).Selected names p := by
  rw [classifyPair]
  split
  · next he _ => exact he
  · next he _ => exact he
  · trivial

/-- **Every line keeps to the names.** -/
theorem Position.selected_classify (p : Position) (names : EntityNames) (raw : Text) :
    (p.classify names raw).Selected names p := by
  rw [classify]
  split
  · trivial
  · split
    · trivial
    · next label value hsplit =>
      have hcolon : ':' ∉ cleanLabel label :=
        fun hc => (splitColon?_eq_some hsplit).1 ((cleanLabel_isInfix label).subset hc)
      simp only
      split
      · trivial
      · split
        · -- under a bullet
          next he _ => exact he
        · split
          · exact selected_classifyHeader hcolon _
          · exact selected_classifyPair _ _

/-! ## The reading -/

/-- No list of the entity is named as an entity is. -/
def Entity.Openable (names : EntityNames) (e : Entity) : Prop :=
  ∀ a ∈ e.attributes, a.value.isList = true → names.select? a.name = none

namespace Entity

variable {e : Entity}

theorem openable_empty (names : EntityNames) : Entity.empty.Openable names :=
  fun _ ha => absurd ha List.not_mem_nil

theorem Openable.set (h : e.Openable names) {a : Attribute}
    (ha : a.value.isList = true → names.select? a.name = none) : (e.set a).Openable names := by
  intro b hb
  rcases mem_setIn hb with rfl | hb
  · exact ha
  · exact h b hb

theorem Openable.openList (h : e.Openable names) {name : Text} (hs : names.select? name = none) :
    (e.openList name).Openable names := by
  rw [Entity.openList]
  split
  · exact h
  · exact h.set fun _ => hs

theorem Openable.putText (h : e.Openable names) (name value : Text) :
    (e.putText name value).Openable names := by
  rw [Entity.putText]
  split
  · exact h
  · exact h.set fun hlist => absurd hlist Bool.false_ne_true

theorem Openable.append (h : e.Openable names) (name : Text) (i : Item) :
    (e.append name i).Openable names := by
  intro b hb
  rcases mem_appendIn hb with hb | ⟨a, ha, items, hv, rfl⟩
  · exact h b hb
  · -- the list that the item joined has the name that it had
    exact fun _ => h a ha (by rw [hv]; rfl)

end Entity

/-- **The invariant of the reading**: the selected entity and those of the state are ones that a line
can select, and no list is named as an entity is. -/
structure Selection (names : EntityNames) (p : Position) (s : WorldState) : Prop where
  position : ∀ e, p.entity = some e → names.Reaches e
  keys : ∀ q ∈ s.entities, names.Reaches q.1
  lists : ∀ q ∈ s.entities, q.2.Openable names

namespace Selection

theorem start (names : EntityNames) : Selection names .start .empty where
  position := fun _ h => by cases h
  keys := fun _ h => absurd h List.not_mem_nil
  lists := fun _ h => absurd h List.not_mem_nil

theorem openable_get (h : Selection names p s) (key : Text) : (s.get key).Openable names := by
  rw [WorldState.get]
  cases he : s.find? key with
  | none => exact Entity.openable_empty names
  | some e => exact h.lists _ (WorldState.mem_entities_of_find?_eq_some he)

/-- A change of an entity that a line can select. -/
theorem modify (h : Selection names p s) {key : Text} (hkey : names.Reaches key)
    {f : Entity → Entity} (hf : (f (s.get key)).Openable names) :
    Selection names p (s.modify key f) where
  position := h.position
  keys := fun q hq => (WorldState.mem_modifyIn hq).elim (h.keys q) fun hq => hq ▸ hkey
  lists := fun q hq => (WorldState.mem_modifyIn hq).elim (h.lists q) fun hq => hq ▸ hf

/-- A line that keeps to the names keeps the invariant. -/
theorem record (h : Selection names p s) {line : Line} (hl : line.Selected names p) :
    Selection names (p.after line) (s.record line) := by
  cases line with
  | blank => exact ⟨h.position, h.keys, h.lists⟩
  | dropped => exact h
  | header e => exact ⟨fun e' he => Option.some.inj he ▸ hl, h.keys, h.lists⟩
  | opening e l =>
    obtain ⟨he, hs⟩ := hl
    have hopened :=
      h.modify (f := (·.openList l)) (h.position e he) ((h.openable_get e).openList hs)
    exact ⟨fun e' he' => Option.some.inj he' ▸ h.position e he, hopened.keys, hopened.lists⟩
  | item e l i => exact h.modify (h.position e hl) ((h.openable_get e).append l i)
  | text e n v => exact h.modify (h.position e hl) ((h.openable_get e).putText n v)

/-- **One line keeps the invariant.** -/
theorem readLine (h : Selection names p s) (raw : Text) :
    Selection names (readLine names (p, s) raw).1 (readLine names (p, s) raw).2 :=
  h.record (p.selected_classify names raw)

/-- **All lines keep the invariant.** -/
theorem foldl (h : Selection names p s) (lines : List Text) :
    Selection names (lines.foldl (Roleplay.readLine names) (p, s)).1
      (lines.foldl (Roleplay.readLine names) (p, s)).2 := by
  induction lines generalizing p s with
  | nil => exact h
  | cons l ls ih => exact ih (h.readLine l)

end Selection

/-! ## Headings -/

/-- **A heading is a header** of the entity that is found by it, wherever it stands. -/
theorem Text.IsHeading.classify {display key n : Text} (h : display.IsHeading)
    (hcolon : ':' ∉ display) (hne : display.strip ≠ [])
    (hfind : names.find? (·.1 = display.strip.lower) = some (n, key)) (hkey : key ≠ [])
    (p : Position) : p.classify names (display ++ [':']) = .header key := by
  have hleft : strip (display.dropWhile isBlank) = display.strip := strip_dropWhile display
  have hleftne : display.dropWhile isBlank ≠ [] := fun hnil => hne (by rw [← hleft, hnil]; rfl)
  have hleftcolon : ':' ∉ display.dropWhile isBlank :=
    fun hc => hcolon ((List.dropWhile_suffix isBlank).subset hc)
  have hclean : cleanLabel display.strip = display.strip := (cleanLabel_strip display).trans h.clean
  have hexact : names.isExact display.strip = true := EntityNames.isExact_of_find? hfind
  -- as a display name it is no item, even where it is indented under an open list
  rw [p.classify_sides names (strip_concat (by decide) display) hleftne hleftcolon h.noBullet
    (by rw [hleft, hclean]) hne (show cleanValue (strip []) = [] from rfl),
    if_pos List.isEmpty_nil, Position.classifyHeader, hexact,
    EntityNames.select?_of_find? hfind hkey]
  obtain ⟨_ | e, _ | l⟩ := p <;> simp

/-- **What a line could select, its display name selects**, when nothing is taken from it. -/
theorem Text.IsHeading.heads {display key n : Text} (h : display.IsHeading)
    (hcolon : ':' ∉ display) (hne : display.strip ≠ [])
    (hfind : names.find? (·.1 = display.strip.lower) = some (n, key)) (hkey : key ≠ []) :
    names.Heads key display := by
  intro p s
  rw [readLine, h.classify hcolon hne hfind hkey p]
  rfl

/-- The display name of a key that a line can select: it has no colon, and the key is found by it. -/
theorem EntityNames.Reaches.display {labels : Labels} {key : Text}
    (hkeys : (labels.map (·.1)).Nodup) (h : (EntityNames.ofLabels labels).Reaches key) :
    key ≠ [] ∧ (labels.get? key).isSome = true ∧ ':' ∉ labels.display key ∧
      (labels.display key).strip ≠ [] ∧
      (EntityNames.ofLabels labels).find? (·.1 = (labels.display key).strip.lower) =
        some ((labels.display key).strip.lower, key) := by
  obtain ⟨label, hlabel, hs⟩ := h
  obtain ⟨hkey, n, hfind, hpiece⟩ := find?_of_select? hs
  obtain ⟨display, hmem, hne, hn⟩ := mem_ofLabels.mp (List.mem_of_find?_eq_some hfind)
  have hget : labels.get? key = some display := Entries.get?_eq_some_of_mem hkeys hmem
  have hdisplay : labels.display key = display := by
    have hne' : display ≠ [] := by
      rintro rfl
      exact hne strip_nil
    simp [Labels.display, hget, given, orEmpty, orElse, hne']
  have hn : n = display.strip.lower := hn
  rw [hdisplay, hget, ← hn]
  refine ⟨hkey, rfl, fun hcolon => ?_, hne, hfind⟩
  -- a colon in the display name would stand in the label too
  have hname : ':' ∈ n := hn ▸ colon_mem_lower (mem_strip hcolon (by decide))
  exact colon_notMem_lower hlabel (hpiece.subset hname)

/-! ## Settled parts are readable -/

theorem Text.Settled.isLabel {t : Text} (h : t.Settled) (ht : t.Tidy) : t.IsLabel :=
  ⟨ht.ne, ht.singleLine, ht.colonFree, h.noBullet, h.clean⟩

theorem Item.Settled.readable {i : Item} (h : i.Settled names) (hi : i.Tidy) : i.Readable names where
  name := h.name.isLabel hi.name
  description := fun _ => ⟨hi.description_singleLine, h.description⟩
  bare := h.bare

theorem Attribute.Settled.readable {a : Attribute} (h : a.Settled names) (ha : a.Tidy)
    (hlist : a.value.isList = true → names.select? a.name = none) : a.Readable names := by
  refine ⟨h.name.isLabel ha.name, ha.small, ?_⟩
  obtain ⟨name, value⟩ := a
  obtain ⟨-, hv⟩ := h
  obtain ⟨-, -, ht⟩ := ha
  cases value with
  | text t => exact fun _ => ⟨ht.2.2, hv⟩
  | list items => exact ⟨hlist rfl, fun i hi => (hv i hi).readable (ht i hi)⟩

/-! ## Reading again -/

namespace WorldState

variable {labels : Labels}

/-- The attributes of a key are those of its entity. -/
theorem mem_attributes_get_iff (h : s.keys.Nodup) {key : Text} {a : Attribute} :
    a ∈ (s.get key).attributes ↔ ∃ e, (key, e) ∈ s.entities ∧ a ∈ e.attributes := by
  constructor
  · intro ha
    rw [get] at ha
    cases he : s.find? key with
    | none =>
      rw [he] at ha
      exact absurd ha List.not_mem_nil
    | some e =>
      rw [he] at ha
      exact ⟨e, mem_entities_of_find?_eq_some he, ha⟩
  · rintro ⟨e, he, ha⟩
    have hfind : s.find? key = some e := Entries.get?_eq_some_of_mem h he
    rw [get, hfind]
    exact ha

/-- What a sheet shows of a state is its content. -/
theorem sameContent_condensed (h : s.Distinct) : s.condensed.SameContent s := by
  intro key a ha
  rw [mem_attributes_get_iff (nodup_keys_condensed h), mem_attributes_get_iff h.keys]
  constructor
  · rintro ⟨e, he, hmem⟩
    obtain ⟨⟨k, e'⟩, hq, heq⟩ := List.mem_map.mp he
    cases heq
    exact ⟨e', (List.mem_filter.mp hq).1, (Entity.mem_condensed.mp hmem).1⟩
  · rintro ⟨e, he, hmem⟩
    have hcontent : e.hasContent = true := List.any_eq_true.mpr ⟨a, hmem, ha⟩
    exact ⟨e.condensed, List.mem_map.mpr ⟨(key, e), List.mem_filter.mpr ⟨he, hcontent⟩, rfl⟩,
      Entity.mem_condensed.mpr ⟨hmem, ha⟩⟩

/-- **Recovered states are read back.** When nothing in the state of an answer is cleaned away a
second time, and no item without a description is named as an entity is, the sheet of the state is
read back as the state that it shows: each entity has the same attributes with content, with the
same items in the same order. -/
theorem recover_sheet_recover (hkeys : (labels.map (·.1)).Nodup) (t : Text)
    (h : (recover labels t).Settled labels) :
    let s := recover labels t
    let again := recover labels (sheet? (some s) labels)
    again = s.condensed ∧ again.SameContent s := by
  intro s again
  have htidy := recover_tidy labels t
  have hselection := (Selection.start (.ofLabels labels)).foldl t.lines
  have hdisplay : ∀ q ∈ s.entities, _ := fun q hq => (hselection.keys q hq).display hkeys
  -- every block that the sheet shows has a heading and is readable
  have hshown : ∀ q ∈ s.condensed.entities, (labels.display q.1).SingleLine ∧
      EntityNames.Heads (.ofLabels labels) q.1 (labels.display q.1) ∧
      q.2.Readable (.ofLabels labels) := by
    intro q hq
    obtain ⟨⟨k, e⟩, hmem, rfl⟩ := List.mem_map.mp hq
    obtain ⟨he, hcontent⟩ := List.mem_filter.mp hmem
    -- that the key was selected says what its display name is
    obtain ⟨hk, -, hcolon, hne, hfind⟩ := hdisplay _ he
    have hheading := h.headings _ he hcontent
    refine ⟨hheading.singleLine, hheading.heads hcolon hne hfind hk, ?_⟩
    refine Entity.readable_condensed (htidy.entities _ he).distinct hcontent fun a ha hac => ?_
    exact (h.attributes _ he a ha hac).readable ((htidy.entities _ he).attributes a ha)
      (hselection.lists _ he a ha)
  have hread : again = s.condensed :=
    recover_sheet?_of_readable htidy.distinct (fun q hq => (hdisplay q hq).2.1)
      (fun q hq => ⟨(hshown q hq).1, (hshown q hq).2.1⟩) fun q hq => (hshown q hq).2.2
  exact ⟨hread, hread ▸ sameContent_condensed htidy.distinct⟩

/-- Marks of emphasis and of a heading, bullets, a display name with blanks around it, an item
without a description, a list before a text and one without items. -/
theorem recover_sheet_recover_marked :
    let labels : Labels := [("character", "Aria"), ("user", " Jordan ")]
    let t : Text :=
      "**Aria:**\nclothes:\n- **hat**:\n  dress: blue: long\n\n- *Mood*: _shy_\n### Jordan:\nnotes:"
    recover labels t =
        ⟨[("character", ⟨[⟨"clothes", .list [⟨"hat", []⟩, ⟨"dress", "blue: long"⟩]⟩,
            ⟨"mood", .text "shy"⟩]⟩),
          ("user", ⟨[⟨"notes", .list []⟩]⟩)]⟩ ∧
      recover labels (sheet? (some (recover labels t)) labels) =
        ⟨[("character", ⟨[⟨"mood", .text "shy"⟩,
            ⟨"clothes", .list [⟨"hat", []⟩, ⟨"dress", "blue: long"⟩]⟩]⟩)]⟩ := by
  intro labels t
  exact ⟨by decide, (recover_sheet_recover (by decide) t (by decide)).1.trans (by decide)⟩

/-- **Other states are not read back.** An item without a description that is named as an entity is
read as its header; a bullet left before a name, and marks left around a name or a value, are taken
away the second time; and so is the mark before a display name, which then selects nothing. -/
theorem recover_sheet_recover_unsettled :
    let kept := fun (labels : Labels) (t : Text) =>
      (recover labels (sheet? (some (recover labels t)) labels)).SameContent (recover labels t)
    let pair : Labels := [("character", "Aria"), ("user", "Jordan")]
    let fan : Labels := [("character", "#1 Fan"), ("user", "Jordan")]
    ¬ kept pair "Jordan:\ngifts:\n- Aria:\n- ring: gold" ∧
      ¬ kept pair "Aria:\n- - hair: red" ∧
      ¬ kept pair "Aria:\n**_ _mood_ _**: calm" ∧
      ¬ kept pair "Aria:\nmood: ** *calm* **" ∧
      ¬ kept fan "The #1 Fan:\nmood: calm" := by
  intro kept pair fan
  refine ⟨fun h => ?_, fun h => ?_, fun h => ?_, fun h => ?_, fun h => ?_⟩
  · exact absurd (h "user" ⟨"gifts", .list [⟨"Aria", []⟩, ⟨"ring", "gold"⟩]⟩ (by decide)) (by decide)
  · exact absurd (h "character" ⟨"- hair", .text "red"⟩ (by decide)) (by decide)
  · exact absurd (h "character" ⟨"_mood_", .text "calm"⟩ (by decide)) (by decide)
  · exact absurd (h "character" ⟨"mood", .text "*calm*"⟩ (by decide)) (by decide)
  · exact absurd (h "character" ⟨"mood", .text "calm"⟩ (by decide)) (by decide)

end WorldState

end Roleplay
