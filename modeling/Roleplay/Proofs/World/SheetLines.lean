import Roleplay.Proofs.Text.Lines
import Roleplay.World.Sheet

/-!
# The lines of a sheet

A sheet shows the condensed form of a state: what has content, with the texts of an entity before
its lists. It is put together from lines: a line for an entity, a line for each of its texts, and
a line for each list and for each item of it.

## Main definitions

* `Entity.condensed`, `WorldState.condensed`: what a sheet shows
* `Attribute.sheetLines`, `Entity.sheetLines`, `WorldState.sheetLines`: the lines

## Main results

* `WorldState.sheet_eq_join`: a sheet is its lines, joined
* `WorldState.condensed_condensed`, `WorldState.sheet_condensed`: what a sheet shows stays
-/

namespace Roleplay

open Text

/-! ## What a sheet shows -/

/-- **What a sheet shows of an entity**: what has content, texts before lists. -/
def Entity.condensed (e : Entity) : Entity :=
  let shown := e.attributes.filter (·.hasContent)
  ⟨shown.filter (!·.value.isList) ++ shown.filter (·.value.isList)⟩

/-- **What a sheet shows of a state**: the entities with content, condensed. -/
def WorldState.condensed (s : WorldState) : WorldState :=
  ⟨(s.entities.filter (·.2.hasContent)).map fun (k, e) => (k, e.condensed)⟩

theorem Entity.mem_condensed {e : Entity} {a : Attribute} :
    a ∈ e.condensed.attributes ↔ a ∈ e.attributes ∧ a.hasContent = true := by
  simp only [condensed, List.mem_append, List.mem_filter]
  cases a.value.isList <;> simp

theorem Entity.condensed_ne_nil_iff {e : Entity} :
    e.condensed.attributes ≠ [] ↔ e.hasContent = true := by
  constructor
  · intro h
    obtain ⟨a, ha⟩ := List.exists_mem_of_ne_nil _ h
    exact List.any_eq_true.mpr ⟨a, mem_condensed.mp ha⟩
  · intro h
    obtain ⟨a, ha⟩ := List.any_eq_true.mp h
    exact List.ne_nil_of_mem (mem_condensed.mpr ha)

theorem Entity.condensed_condensed (e : Entity) : e.condensed.condensed = e.condensed := by
  have hshown : e.condensed.attributes.filter (·.hasContent) = e.condensed.attributes :=
    List.filter_eq_self.mpr fun a ha => (mem_condensed.mp ha).2
  have hnone : ∀ as : List Attribute, as.filter (fun _ => false) = [] :=
    fun as => List.filter_eq_nil_iff.mpr fun _ _ => Bool.false_ne_true
  rw [condensed, hshown]
  simp [condensed, List.filter_append, List.filter_filter, ← Bool.and_assoc, hnone]

/-- Condensing loses no more a second time. -/
theorem WorldState.condensed_condensed (s : WorldState) : s.condensed.condensed = s.condensed := by
  have hshown : s.condensed.entities.filter (·.2.hasContent) = s.condensed.entities := by
    refine List.filter_eq_self.mpr fun p hp => ?_
    obtain ⟨⟨k, e⟩, hq, rfl⟩ := List.mem_map.mp hp
    have he := (List.mem_filter.mp hq).2
    rw [← Entity.condensed_ne_nil_iff, Entity.condensed_condensed, Entity.condensed_ne_nil_iff]
    exact he
  rw [condensed, hshown]
  simp [condensed, Entity.condensed_condensed]

/-! ## Lines -/

/-- The line of a list's item, indented. -/
def Item.sheetLine (i : Item) : Text :=
  [' ', ' '] ++ i.line

/-- **The lines of an attribute.** -/
def Attribute.sheetLines (a : Attribute) : List Text :=
  match a.value with
  | .text t => [a.name ++ [':', ' '] ++ t]
  | .list items => (a.name ++ [':']) :: items.map (·.sheetLine)

/-- **The lines of an entity** under a display name. -/
def Entity.sheetLines (e : Entity) (label : Text) : List Text :=
  (label ++ [':']) :: e.attributes.flatMap (·.sheetLines)

/-- **The lines of a state**: those of its entities, an empty line between each two. -/
def WorldState.sheetLines (s : WorldState) (labels : Labels) : List Text :=
  List.intercalate [[]] (s.entities.map fun (k, e) => e.sheetLines (labels.display k))

theorem Attribute.sheetLines_ne_nil (a : Attribute) : a.sheetLines ≠ [] := by
  rw [sheetLines]
  split <;> exact List.cons_ne_nil _ _

theorem Attribute.sheet_eq_join {a : Attribute} (h : a.hasContent = true) :
    a.sheet = join ['\n'] a.sheetLines := by
  rw [sheet, if_pos h, sheetLines]
  rw [hasContent] at h
  cases hv : a.value with
  | text t => simp
  | list items =>
    have hne : items.map (·.sheetLine) ≠ [] := by
      simpa [hv, AttributeValue.hasContent] using h
    simp only
    rw [join_cons_of_ne_nil _ _ hne]
    simp [Item.sheetLine]

theorem Attribute.sheet_isEmpty (a : Attribute) : a.sheet.isEmpty = !a.hasContent := by
  rw [sheet]
  split
  · next h =>
    rw [h]
    split <;> simp
  · next h => simp [h]

/-- The block of an entity is the lines of what is shown of it. -/
theorem Entity.sheet_eq_join {e : Entity} (h : e.hasContent = true) (label : Text) :
    e.sheet label = join ['\n'] (e.condensed.sheetLines label) := by
  have horder : e.condensed.attributes = e.sheetOrder.filter (·.hasContent) := by
    simp [condensed, sheetOrder, List.filter_append, List.filter_filter, Bool.and_comm]
  -- the parts that are not empty are those of the attributes with content
  have hparts : (e.sheetOrder.map (·.sheet)).filter (!·.isEmpty) =
      e.condensed.attributes.map (join ['\n'] ∘ Attribute.sheetLines) := by
    rw [List.filter_map, horder]
    have hp : ((fun t : Text => !t.isEmpty) ∘ Attribute.sheet) = fun a => a.hasContent := by
      funext a
      simp [Attribute.sheet_isEmpty]
    rw [hp]
    exact List.map_congr_left fun a ha => Attribute.sheet_eq_join (List.mem_filter.mp ha).2
  have hne := condensed_ne_nil_iff.mpr h
  have hflat : e.condensed.attributes.flatMap (·.sheetLines) ≠ [] := by
    obtain ⟨a, as, ha⟩ := List.exists_cons_of_ne_nil hne
    simp [ha, Attribute.sheetLines_ne_nil a]
  rw [sheet, hparts, sheetLines, join_cons_of_ne_nil _ _ hflat]
  simp only [List.isEmpty_iff, List.map_eq_nil_iff, hne, if_false]
  rw [← List.map_map, join_map_join _ (by simp [Attribute.sheetLines_ne_nil]),
    List.flatMap_def]
  simp

theorem Entity.sheet_isEmpty (e : Entity) (label : Text) :
    (e.sheet label).isEmpty = !e.hasContent := by
  cases h : e.hasContent with
  | true =>
    rw [sheet_eq_join h, sheetLines]
    cases e.condensed.attributes.flatMap (·.sheetLines) with
    | nil => simp
    | cons l ls => simp [join_cons_cons]
  | false =>
    have hparts : (e.sheetOrder.map (·.sheet)).filter (!·.isEmpty) = [] := by
      rw [hasContent, List.any_eq_false] at h
      rw [List.filter_eq_nil_iff]
      intro part hpart
      obtain ⟨a, ha, rfl⟩ := List.mem_map.mp hpart
      have hmem : a ∈ e.attributes := by
        simp only [sheetOrder, List.mem_append, List.mem_filter] at ha
        exact ha.elim And.left And.left
      simp [Attribute.sheet_isEmpty, h a hmem]
    rw [sheet, hparts]
    rfl

/-- **A sheet is its lines**, those of what it shows. -/
theorem WorldState.sheet_eq_join (s : WorldState) (labels : Labels) :
    s.sheet labels = join ['\n'] (s.condensed.sheetLines labels) := by
  -- the blocks that are not empty are those of the entities with content
  have hblocks : (s.entities.map fun (k, e) => e.sheet (labels.display k)).filter (!·.isEmpty) =
      (s.condensed.entities.map fun (k, e) => e.sheetLines (labels.display k)).map
        (join ['\n']) := by
    have hp : ((fun t : Text => !t.isEmpty) ∘ fun (p : Text × Entity) =>
        p.2.sheet (labels.display p.1)) = fun p => p.2.hasContent := by
      funext p
      simp [Entity.sheet_isEmpty]
    rw [List.filter_map, hp, condensed, List.map_map, List.map_map]
    exact List.map_congr_left fun p hp => Entity.sheet_eq_join (List.mem_filter.mp hp).2 _
  rw [sheet, hblocks, sheetLines]
  refine join_append_self_map_join ['\n'] fun ls hls => ?_
  obtain ⟨p, -, rfl⟩ := List.mem_map.mp hls
  exact List.cons_ne_nil _ _

theorem WorldState.sheet_condensed (s : WorldState) (labels : Labels) :
    s.condensed.sheet labels = s.sheet labels := by
  rw [sheet_eq_join, condensed_condensed, ← sheet_eq_join]

end Roleplay
