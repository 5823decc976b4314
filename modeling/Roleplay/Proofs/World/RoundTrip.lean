import Roleplay.Proofs.World.SheetReading

/-!
# Sheets are read back

The sheet of a legible state is read back as what it shows: what is legible under display names
that are told apart is readable where these names select entities.

## Main definitions

* `Item.Legible`, `Attribute.Legible`, `WorldState.Legible`: what no line of the sheet can be
  mistaken in

## Main results

* `Attribute.Legible.readable`: legible attributes are readable
* `Labels.Legible.heads`: display names that are told apart are headings
* `WorldState.recover_sheet`: sheets are read back
-/

namespace Roleplay

open Text

/-! ## Legible states -/

/-- **A legible item.** Without a description it must not be named as an entity is. -/
structure Item.Legible (labels : Labels) (i : Item) : Prop where
  name : i.name.IsLabel
  description : i.description ≠ [] → i.description.IsValue
  bare : i.description = [] → ∀ l ∈ labels, l.2.lower ≠ i.name.lower

/-- **A legible value.** A list must not have a display name within its own. -/
def AttributeValue.Legible (labels : Labels) (name : Text) : AttributeValue → Prop
  | .text t => t.strip ≠ [] → t.IsValue
  | .list items =>
    (∀ l ∈ labels, ¬ l.2.lower <:+: name.lower) ∧ ∀ i ∈ items, i.Legible labels

/-- **A legible attribute**, its name in small letters. -/
structure Attribute.Legible (labels : Labels) (a : Attribute) : Prop where
  name : a.name.IsLabel
  small : a.name.lower = a.name
  value : a.value.Legible labels a.name

/-- **Display names that are told apart**, whatever the case of their letters. -/
structure Labels.Legible (labels : Labels) : Prop where
  distinct : (labels.map (·.2.lower)).Nodup
  displays : ∀ l ∈ labels, l.2.IsLabel

/-- **A legible state**: its entities have display names, and its attributes are legible. -/
structure WorldState.Legible (labels : Labels) (s : WorldState) : Prop where
  displays : labels.Legible
  named : ∀ p ∈ s.entities, p.1 ≠ [] ∧ (labels.get? p.1).isSome = true
  attributes : ∀ p ∈ s.entities, ∀ a ∈ p.2.attributes, a.Legible labels

instance (labels : Labels) (i : Item) : Decidable (i.Legible labels) :=
  decidable_of_iff
    (i.name.IsLabel ∧ (i.description ≠ [] → i.description.IsValue) ∧
      (i.description = [] → ∀ l ∈ labels, l.2.lower ≠ i.name.lower))
    ⟨fun ⟨h₁, h₂, h₃⟩ => ⟨h₁, h₂, h₃⟩, fun h => ⟨h.name, h.description, h.bare⟩⟩

instance (labels : Labels) (name : Text) (v : AttributeValue) : Decidable (v.Legible labels name) :=
  match v with
  | .text t => inferInstanceAs (Decidable (t.strip ≠ [] → t.IsValue))
  | .list items =>
    inferInstanceAs (Decidable ((∀ l ∈ labels, ¬ l.2.lower <:+: name.lower) ∧
      ∀ i ∈ items, i.Legible labels))

instance (labels : Labels) (a : Attribute) : Decidable (a.Legible labels) :=
  decidable_of_iff (a.name.IsLabel ∧ a.name.lower = a.name ∧ a.value.Legible labels a.name)
    ⟨fun ⟨h₁, h₂, h₃⟩ => ⟨h₁, h₂, h₃⟩, fun h => ⟨h.name, h.small, h.value⟩⟩

instance (labels : Labels) : Decidable labels.Legible :=
  decidable_of_iff ((labels.map (·.2.lower)).Nodup ∧ ∀ l ∈ labels, l.2.IsLabel)
    ⟨fun ⟨h₁, h₂⟩ => ⟨h₁, h₂⟩, fun h => ⟨h.distinct, h.displays⟩⟩

instance (labels : Labels) (s : WorldState) : Decidable (s.Legible labels) :=
  decidable_of_iff
    (labels.Legible ∧ (∀ p ∈ s.entities, p.1 ≠ [] ∧ (labels.get? p.1).isSome = true) ∧
      ∀ p ∈ s.entities, ∀ a ∈ p.2.attributes, a.Legible labels)
    ⟨fun ⟨h₁, h₂, h₃⟩ => ⟨h₁, h₂, h₃⟩, fun h => ⟨h.displays, h.named, h.attributes⟩⟩

theorem Labels.Legible.stripped {labels : Labels} (h : labels.Legible) :
    ∀ l ∈ labels, l.2.Stripped :=
  fun l hl => (h.displays l hl).stripped

/-- The display name of a key that has one. -/
theorem Labels.Legible.display_mem {labels : Labels} (h : labels.Legible) {key : Text}
    (hsome : (labels.get? key).isSome = true) : (key, labels.display key) ∈ labels := by
  obtain ⟨display, hget⟩ := Option.isSome_iff_exists.mp hsome
  have hmem : (key, display) ∈ labels := by
    obtain ⟨_, _, heq, -⟩ := List.lookup_eq_some_iff.mp hget
    rw [heq]
    exact List.mem_append_right _ List.mem_cons_self
  have hne := (h.displays _ hmem).ne
  have hdisplay : labels.display key = display := by
    simp [Labels.display, hget, given, orEmpty, orElse, hne]
  rwa [hdisplay]

theorem Labels.Legible.isLabel_display {labels : Labels} (h : labels.Legible) {key : Text}
    (hsome : (labels.get? key).isSome = true) : (labels.display key).IsLabel :=
  h.displays _ (h.display_mem hsome)

/-- **The display name of a key is its heading.** -/
theorem Labels.Legible.heads {labels : Labels} (h : labels.Legible) {key : Text} (hkey : key ≠ [])
    (hsome : (labels.get? key).isSome = true) :
    EntityNames.Heads (.ofLabels labels) key (labels.display key) :=
  readLine_header (h.isLabel_display hsome) (EntityNames.select?_display h.distinct h.stripped
    (h.display_mem hsome) hkey (h.isLabel_display hsome).ne)

/-! ## Legible parts are readable -/

section Readable

variable {labels : Labels}

theorem Item.Legible.readable (hlabels : labels.Legible) {i : Item} (h : i.Legible labels) :
    i.Readable (.ofLabels labels) where
  name := h.name
  description := h.description
  bare := fun hd => EntityNames.isExact_eq_false hlabels.stripped (h.bare hd)

theorem AttributeValue.Legible.readable (hlabels : labels.Legible) {name : Text}
    {v : AttributeValue} (h : v.Legible labels name) : v.Readable (.ofLabels labels) name := by
  cases v with
  | text t => exact h
  | list items =>
    exact ⟨EntityNames.select?_eq_none hlabels.stripped h.1, fun i hi => (h.2 i hi).readable hlabels⟩

/-- **Legible attributes are readable** where the display names select entities. -/
theorem Attribute.Legible.readable (hlabels : labels.Legible) {a : Attribute}
    (h : a.Legible labels) : a.Readable (.ofLabels labels) :=
  ⟨h.name, h.small, h.value.readable hlabels⟩

end Readable

/-! ## Blocks -/

/-- **What a block can show**: attributes with content, the texts first. -/
structure Entity.Shown (labels : Labels) (e : Entity) : Prop where
  ne : e.attributes ≠ []
  distinct : e.Distinct
  ordered : e.attributes.Pairwise fun a b => a.value.isList = true → b.value.isList = true
  content : ∀ a ∈ e.attributes, a.hasContent = true
  legible : ∀ a ∈ e.attributes, a.Legible labels

theorem Entity.Shown.readable {labels : Labels} (hlabels : labels.Legible) {e : Entity}
    (h : e.Shown labels) : e.Readable (.ofLabels labels) :=
  ⟨h.ne, h.distinct, h.ordered, h.content, fun a ha => (h.legible a ha).readable hlabels⟩

/-- What is shown of a legible entity is shown of it again. -/
theorem Entity.shown_condensed {labels : Labels} {e : Entity} (hd : e.Distinct)
    (hc : e.hasContent = true) (h : ∀ a ∈ e.attributes, a.Legible labels) :
    e.condensed.Shown labels where
  ne := condensed_ne_nil_iff.mpr hc
  distinct := hd.condensed
  ordered := e.ordered_condensed
  content := fun _ ha => (mem_condensed.mp ha).2
  legible := fun a ha => h a (mem_condensed.mp ha).1

/-! ## Sheets -/

namespace WorldState

variable {labels : Labels} {s : WorldState}

theorem shown_of_mem_condensed (hd : s.Distinct) (h : s.Legible labels) {q : Text × Entity}
    (hq : q ∈ s.condensed.entities) : q.2.Shown labels := by
  obtain ⟨⟨k, e⟩, hmem, rfl⟩ := List.mem_map.mp hq
  obtain ⟨he, hc⟩ := List.mem_filter.mp hmem
  exact Entity.shown_condensed (hd.entities _ he) hc (h.attributes _ he)

theorem named_of_mem_condensed (h : s.Legible labels) {q : Text × Entity}
    (hq : q ∈ s.condensed.entities) : q.1 ≠ [] ∧ (labels.get? q.1).isSome = true := by
  obtain ⟨⟨k, e⟩, hmem, rfl⟩ := List.mem_map.mp hq
  exact h.named (k, e) (List.mem_filter.mp hmem).1

/-- The display name of an entity that is shown is its heading. -/
theorem heads_of_mem_condensed (h : s.Legible labels) {q : Text × Entity}
    (hq : q ∈ s.condensed.entities) : (labels.display q.1).SingleLine ∧
      EntityNames.Heads (.ofLabels labels) q.1 (labels.display q.1) :=
  let ⟨hkey, hnamed⟩ := named_of_mem_condensed h hq
  ⟨(h.displays.isLabel_display hnamed).singleLine, h.displays.heads hkey hnamed⟩

/-- **Sheets are read back.** The sheet of a legible state is read back as the state that it shows:
what has content, in each entity the texts before the lists. The sheet of that state is the same.
Keys and names are distinct, as the operations on states keep them. -/
theorem recover_sheet (hd : s.Distinct) (h : s.Legible labels) :
    recover labels (sheet? (some s) labels) = s.condensed ∧
      sheet? (some (recover labels (sheet? (some s) labels))) labels = sheet? (some s) labels := by
  have hread : recover labels (sheet? (some s) labels) = s.condensed :=
    recover_sheet?_of_readable hd (fun q hq => (h.named q hq).2)
      (fun q hq => heads_of_mem_condensed h hq)
      fun q hq => (shown_of_mem_condensed hd h hq).readable h.displays
  have hagain : sheet? (some s.condensed) labels = sheet? (some s) labels := by
    rw [sheet?_eq_sheet fun q hq => (named_of_mem_condensed h hq).2, sheet_condensed,
      sheet?_eq_sheet fun q hq => (h.named q hq).2]
  rw [hread, hagain]
  exact ⟨rfl, rfl⟩

/-- A list before a text, an item without a description, a blank text, an empty list and an entity
about which nothing is known. -/
theorem recover_sheet_unordered :
    recover [("character", "Aria"), ("user", "Bob"), ("place", "The Old Mill")]
        (sheet?
          (some ⟨[("character", ⟨[⟨"clothes", .list [⟨"dress", "blue: long"⟩, ⟨"hat", []⟩]⟩,
              ⟨"mood", .text "cheerful - and loud"⟩, ⟨"scars", .list []⟩]⟩),
            ("place", ⟨[⟨"weather", .text " "⟩]⟩),
            ("user", ⟨[⟨"about aria's pockets", .text "+ nothing"⟩]⟩)]⟩)
          [("character", "Aria"), ("user", "Bob"), ("place", "The Old Mill")]) =
      ⟨[("character", ⟨[⟨"mood", .text "cheerful - and loud"⟩,
          ⟨"clothes", .list [⟨"dress", "blue: long"⟩, ⟨"hat", []⟩]⟩]⟩),
        ("user", ⟨[⟨"about aria's pockets", .text "+ nothing"⟩]⟩)]⟩ :=
  (recover_sheet (by decide) (by decide)).1.trans (by decide)

end WorldState

end Roleplay
