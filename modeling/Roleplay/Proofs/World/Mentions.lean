import Roleplay.Proofs.World.Labels

/-!
# The display name that a label mentions

A label is looked up twice: for the display name that it is, and then for the longest one in it. The
first search has no part in the answer. A name in a label is at most as long as the label, and one
that is as long is the label itself; so a name that the label is, is one of the longest names in it,
and both searches take the first of them.

The answer is therefore the first of the longest display names in the label. Lengths are those of
small letters, and the order of the entities counts only where two of the names are equally long.

## Main definitions

* `Text.Mentions label display`: a display name is in a label
* `Labels.FirstLongest labels label l`: `l` has the first of the longest display names in a label
* `Labels.Graded labels label`: no two display names in a label are equally long

## Main results

* `EntityNames.match?_ofLabels_eq_some_iff`, `EntityNames.match?_ofLabels_eq_none_iff`: the entity
  that a label names
* `EntityNames.match?_ofLabels_of_graded`: the same without the order
* `EntityNames.match?_first_longest`: these together, and what the search for the whole label does
-/

namespace Roleplay

open Text

variable {labels : Labels} {label key : Text}

/-! ## Display names in a label -/

/-- **A label mentions a display name**: the name is in it, whatever the case of their letters and
the blanks around the name. A blank name is in no label. -/
def Text.Mentions (label display : Text) : Prop :=
  display.strip ≠ [] ∧ display.strip.lower <:+: label.lower

instance (label display : Text) : Decidable (label.Mentions display) :=
  inferInstanceAs (Decidable (_ ∧ _))

/-- The length by which display names are compared, that of the name in small letters. -/
def Text.nameLength (display : Text) : Nat :=
  display.strip.lower.length

/-- **The first of the longest display names in a label**: those in the label that stand before it
are shorter, and those behind it are no longer. -/
def Labels.FirstLongest (labels : Labels) (label : Text) (l : Text × Text) : Prop :=
  ∃ before after : Labels, labels = before ++ l :: after ∧ label.Mentions l.2 ∧
    (∀ m ∈ before, label.Mentions m.2 → m.2.nameLength < l.2.nameLength) ∧
    ∀ m ∈ after, label.Mentions m.2 → m.2.nameLength ≤ l.2.nameLength

/-- **No two display names in a label are equally long.** -/
def Labels.Graded (labels : Labels) (label : Text) : Prop :=
  ∀ l ∈ labels, ∀ m ∈ labels, label.Mentions l.2 → label.Mentions m.2 →
    l.2.nameLength = m.2.nameLength → l = m

instance (labels : Labels) (label : Text) : Decidable (labels.Graded label) :=
  inferInstanceAs (Decidable (∀ l ∈ labels, ∀ m ∈ labels, _))

/-- The first of the longest display names is a longest one. -/
theorem Labels.FirstLongest.longest {l : Text × Text} (h : labels.FirstLongest label l) :
    l ∈ labels ∧ label.Mentions l.2 ∧
      ∀ m ∈ labels, label.Mentions m.2 → m.2.nameLength ≤ l.2.nameLength := by
  obtain ⟨before, after, rfl, hin, hbefore, hafter⟩ := h
  refine ⟨by simp, hin, fun m hm hmin => ?_⟩
  rcases List.mem_append.mp hm with hm | hm
  · exact (hbefore m hm hmin).le
  · rcases List.mem_cons.mp hm with rfl | hm
    · exact le_rfl
    · exact hafter m hm hmin

/-- The same among the display names in the label alone. -/
theorem Labels.firstLongest_iff {l : Text × Text} :
    labels.FirstLongest label l ↔ ∃ before after : Labels,
      (labels.filter fun m => label.Mentions m.2) = before ++ l :: after ∧
      (∀ m ∈ before, m.2.nameLength < l.2.nameLength) ∧
      ∀ m ∈ after, m.2.nameLength ≤ l.2.nameLength := by
  constructor
  · rintro ⟨before, after, rfl, hin, hbefore, hafter⟩
    rw [List.filter_append, List.filter_cons, if_pos (decide_eq_true hin)]
    refine ⟨_, _, rfl, fun m hm => ?_, fun m hm => ?_⟩
    · obtain ⟨hm, hmin⟩ := List.mem_filter.mp hm
      exact hbefore m hm (of_decide_eq_true hmin)
    · obtain ⟨hm, hmin⟩ := List.mem_filter.mp hm
      exact hafter m hm (of_decide_eq_true hmin)
  · rintro ⟨before, after, hfilter, hbefore, hafter⟩
    obtain ⟨front, rest, rfl, rfl, hrest⟩ := List.filter_eq_append_iff.mp hfilter
    -- what is skipped before the first of the longest is not in the label
    obtain ⟨skipped, back, rfl, hskipped, hin, rfl⟩ := List.filter_eq_cons_iff.mp hrest
    refine ⟨front ++ skipped, back, by simp, of_decide_eq_true hin, fun m hm hmin => ?_,
      fun m hm hmin => hafter m (List.mem_filter.mpr ⟨hm, decide_eq_true hmin⟩)⟩
    rcases List.mem_append.mp hm with hm | hm
    · exact hbefore m (List.mem_filter.mpr ⟨hm, decide_eq_true hmin⟩)
    · exact absurd (decide_eq_true hmin) (hskipped m hm)

/-- The order of the entities does not count. -/
theorem Labels.Graded.perm (h : labels.Graded label) {labels' : Labels}
    (hperm : labels'.Perm labels) : labels'.Graded label :=
  fun l hl m hm => h l (hperm.mem_iff.mp hl) m (hperm.mem_iff.mp hm)

namespace EntityNames

/-! ## The entity that a label names -/

/-- The names in a label are those of the display names that it mentions. -/
theorem filter_ofLabels (labels : Labels) (label : Text) :
    (ofLabels labels).filter (fun n => label.lower.contains n.1) =
      (labels.filter fun l => label.Mentions l.2).map fun l => (l.2.strip.lower, l.1) := by
  unfold ofLabels
  rw [List.filter_filter, List.filter_map]
  congr 1
  refine List.filter_congr fun l _ => ?_
  rw [Bool.eq_iff_iff, decide_eq_true_eq]
  simp [Mentions, contains_iff_isInfix, lower_eq_nil_iff, and_comm]

/-- **The entity that a label names** is that of the first of the longest display names in it. -/
theorem match?_ofLabels_eq_some_iff : (ofLabels labels).match? label = some key ↔
    ∃ display, labels.FirstLongest label (key, display) := by
  rw [match?_eq_longest?, filter_ofLabels, Option.map_eq_some_iff]
  simp only [Labels.firstLongest_iff]
  constructor
  · rintro ⟨m, hm, rfl⟩
    obtain ⟨before, after, hsplit, hbefore, hafter⟩ := longest?_eq_some_iff.mp hm
    -- the labels are taken apart where their names are
    obtain ⟨front, rest, hfilter, rfl, hrest⟩ := List.map_eq_append_iff.mp hsplit
    obtain ⟨l, back, rfl, rfl, rfl⟩ := List.map_eq_cons_iff.mp hrest
    exact ⟨l.2, front, back, hfilter, List.forall_mem_map.mp hbefore, List.forall_mem_map.mp hafter⟩
  · rintro ⟨display, before, after, hfilter, hbefore, hafter⟩
    rw [hfilter, List.map_append, List.map_cons]
    exact ⟨_, longest?_eq_some_iff.mpr ⟨_, _, rfl, List.forall_mem_map.mpr hbefore,
      List.forall_mem_map.mpr hafter⟩, rfl⟩

/-- A label names no entity when it mentions no display name. -/
theorem match?_ofLabels_eq_none_iff :
    (ofLabels labels).match? label = none ↔ ∀ l ∈ labels, ¬ label.Mentions l.2 := by
  rw [match?_eq_longest?, filter_ofLabels, Option.map_eq_none_iff, longest?_eq_none_iff,
    List.map_eq_nil_iff, List.filter_eq_nil_iff]
  simp only [decide_eq_true_eq]

/-! ## The order of the entities -/

/-- **Where no two names in a label are equally long**, the entity is that of the longest one, and
its place among the others does not count. -/
theorem match?_ofLabels_of_graded (h : labels.Graded label) :
    (ofLabels labels).match? label = some key ↔ ∃ display, (key, display) ∈ labels ∧
      label.Mentions display ∧
      ∀ m ∈ labels, label.Mentions m.2 → m.2.nameLength ≤ display.nameLength := by
  rw [match?_ofLabels_eq_some_iff]
  constructor
  · rintro ⟨display, hfirst⟩
    exact ⟨display, hfirst.longest⟩
  · rintro ⟨display, hmem, hin, hlongest⟩
    -- some entity is named, and its name is as long, so it is this one
    have hsome : (ofLabels labels).match? label ≠ none :=
      fun hnone => match?_ofLabels_eq_none_iff.mp hnone _ hmem hin
    obtain ⟨key', hkey'⟩ := Option.ne_none_iff_exists'.mp hsome
    obtain ⟨display', hfirst⟩ := match?_ofLabels_eq_some_iff.mp hkey'
    obtain ⟨hmem', hin', hlongest'⟩ := hfirst.longest
    have hlength : display.nameLength = display'.nameLength :=
      le_antisymm (hlongest' _ hmem hin) (hlongest _ hmem' hin')
    have hsame : (key, display) = (key', display') := h _ hmem _ hmem' hin hin' hlength
    rw [(Prod.mk.inj hsame).1]
    exact ⟨display', hfirst⟩

/-- **The entity that a label names** is that of the first of the longest display names in the
label, and there is none when no display name is in it. The search for the whole label has no part
in it, and where no two of the names are equally long, the order of the entities has none. -/
theorem match?_first_longest (labels : Labels) (label : Text) :
    (∀ key, (ofLabels labels).match? label = some key ↔
        ∃ display, labels.FirstLongest label (key, display)) ∧
      ((ofLabels labels).match? label = none ↔ ∀ l ∈ labels, ¬ label.Mentions l.2) ∧
      (ofLabels labels).match? label =
        (longest? ((ofLabels labels).filter fun n => label.lower.contains n.1)).map (·.2) ∧
      (labels.Graded label → ∀ labels' : Labels, labels'.Perm labels →
        (ofLabels labels').match? label = (ofLabels labels).match? label) := by
  refine ⟨fun key => match?_ofLabels_eq_some_iff, match?_ofLabels_eq_none_iff,
    match?_eq_longest? _ _, fun hgraded labels' hperm => ?_⟩
  ext key
  rw [match?_ofLabels_of_graded hgraded, match?_ofLabels_of_graded (hgraded.perm hperm)]
  simp only [hperm.mem_iff]

/-- **A longer name wins wherever it stands**: the name of the character is in that of the user, and
a blank name is in no label. -/
theorem match?_first_longest_alexandra :
    let labels : Labels := [("character", "Alex"), ("user", " ALEXANDRA "), ("cat", "  ")]
    let label : Text := "alexandra's room"
    labels.Graded label ∧ (ofLabels labels).match? label = some "user" ∧
      (ofLabels labels.reverse).match? label = some "user" := by
  intro labels label
  have hgraded : labels.Graded label := by decide +kernel
  obtain ⟨hnames, -, -, horder⟩ := match?_first_longest labels label
  have huser : (ofLabels labels).match? label = some "user" := by
    refine (hnames "user").mpr ⟨" ALEXANDRA ", [("character", "Alex")], [("cat", "  ")], rfl, ?_⟩
    decide +kernel
  exact ⟨hgraded, huser, (horder hgraded _ (List.reverse_perm labels)).trans huser⟩

/-- **Of equally long names the first one wins**: the dotted capital has two characters in small
letters, so both names have three. -/
example :
    (ofLabels [("cat", "İz"), ("dog", "Ali")]).match? "Ali and İz" = some "cat" ∧
      (ofLabels [("dog", "Ali"), ("cat", "İz")]).match? "Ali and İz" = some "dog" := by
  decide +kernel

end EntityNames

end Roleplay
