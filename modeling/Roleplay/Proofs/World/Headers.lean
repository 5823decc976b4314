import Roleplay.Proofs.World.Account
import Roleplay.Proofs.World.Reread

/-!
# The headers of display names

A line that is the display name of an entity and a colon is meant to select that entity. The line is
cleaned before it is looked up and the display name is not: of the label the marks of emphasis and of
headings are taken at both ends, of the display name nothing but blanks. So the line selects the
entity exactly when the display name has no such marks at its ends. With marks it cannot select the
entity even as a piece of the label, since what is left of the label is too short to hold the whole
name.

Where the line does select the entity, every text line behind it is recorded under it, whatever was
read before.

## Main definitions

* `Labels.Apart`: entities whose display names differ
* `Text.Gives`: a line that gives a text
* `WorldState.putTexts`: texts put under an entity

## Main results

* `Labels.Apart.classify_header_iff`: when a display name is a header of its entity
* `readLines_gives`: the text lines behind a header are recorded under its entity
* `Entity.find?_putTexts`: the last text of a name is found, unless a list has the name
* `WorldState.recover_header_iff`: the two together, anywhere in an answer
-/

namespace Roleplay

open Text

/-! ## Display names that differ -/

/-- **Entities whose display names differ**, whatever the case of their letters and the blanks around
them. No key is empty, and none is there twice. -/
structure Labels.Apart (labels : Labels) : Prop where
  keys : (labels.map (·.1)).Nodup
  named : ∀ l ∈ labels, l.1 ≠ []
  displays : (labels.map (·.2.strip.lower)).Nodup

instance (labels : Labels) : Decidable labels.Apart :=
  decidable_of_iff
    ((labels.map (·.1)).Nodup ∧ (∀ l ∈ labels, l.1 ≠ []) ∧ (labels.map (·.2.strip.lower)).Nodup)
    ⟨fun ⟨h₁, h₂, h₃⟩ => ⟨h₁, h₂, h₃⟩, fun h => ⟨h.keys, h.named, h.displays⟩⟩

namespace Labels.Apart

variable {labels : Labels} {key display : Text}

/-- An entity is found by its display name. -/
theorem find?_eq_some (h : labels.Apart) (hmem : (key, display) ∈ labels)
    (hne : display.strip ≠ []) :
    (EntityNames.ofLabels labels).find? (·.1 = display.strip.lower) =
      some (display.strip.lower, key) := by
  have hentry : (display.strip.lower, key) ∈ EntityNames.ofLabels labels :=
    EntityNames.mem_ofLabels.mpr ⟨display, hmem, hne, rfl⟩
  cases hfind : (EntityNames.ofLabels labels).find? (·.1 = display.strip.lower) with
  | none => exact absurd (List.find?_eq_none.mp hfind _ hentry) (by simp)
  | some found =>
    obtain ⟨n, key'⟩ := found
    have hn : n = display.strip.lower := by simpa using List.find?_some hfind
    obtain ⟨display', hmem', -, hn'⟩ :=
      EntityNames.mem_ofLabels.mp (List.mem_of_find?_eq_some hfind)
    -- the entry that is found has a display name like this one, so it is the same entry
    have hsame : display'.strip.lower = display.strip.lower := hn'.symm.trans hn
    have hlabel : (key', display') = (key, display) :=
      List.inj_on_of_nodup_map h.displays hmem' hmem hsame
    rw [hn, (Prod.mk.inj hlabel).1]

/-- **When a display name is a header of its entity**: exactly when cleaning takes nothing but blanks
from it. -/
theorem classify_header_iff (h : labels.Apart) (hmem : (key, display) ∈ labels)
    (hne : display.strip ≠ []) (hline : display.SingleLine) (hcolon : ':' ∉ display)
    (hbullet : ∀ m ∈ bulletMarks, ¬ m <+: display.dropWhile isBlank) (p : Position) :
    p.classify (.ofLabels labels) (display ++ [':']) = .header key ↔
      cleanLabel display = display.strip := by
  have hleft : strip (display.dropWhile isBlank) = display.strip := strip_dropWhile display
  constructor
  · intro hheader
    have hreads := p.reads_classify (.ofLabels labels) (display ++ [':'])
    rw [hheader] at hreads
    obtain ⟨label, hsides, hselect⟩ := hreads
    -- the label is what cleaning leaves of the display name
    have hleftne : display.dropWhile isBlank ≠ [] := fun hnil => hne (by rw [← hleft, hnil]; rfl)
    have hleftcolon : ':' ∉ display.dropWhile isBlank :=
      fun hc => hcolon ((List.dropWhile_suffix isBlank).subset hc)
    rw [sides?, strip_concat (by decide), dropBullet?_eq_none hleftne hbullet, Option.getD_none,
      splitColon?_append hleftne hleftcolon, hleft] at hsides
    have hlabel : label = cleanLabel display.strip := by
      by_cases hempty : (cleanLabel display.strip).isEmpty = true
      · simp [hempty] at hsides
      · simp only [hempty, Bool.false_eq_true, if_false, Option.some.injEq, Prod.mk.injEq] at hsides
        exact hsides.1.symm
    -- it holds the display name of what it selects, and no proper piece is long enough for that
    obtain ⟨-, n, hn, hpiece⟩ := EntityNames.select?_mem hselect
    obtain ⟨display', hmem', -, hname⟩ := EntityNames.mem_ofLabels.mp hn
    have hdisplay : display' = display :=
      (Prod.mk.inj (List.inj_on_of_nodup_map h.keys hmem' hmem rfl)).2
    rw [show n = display.strip.lower from hdisplay ▸ hname, hlabel] at hpiece
    rw [← cleanLabel_strip]
    exact eq_of_isInfix_of_lower (cleanLabel_isInfix display.strip) hpiece
  · intro hclean
    have hheading : display.IsHeading := ⟨hline, hbullet, hclean⟩
    exact hheading.classify hcolon hne (h.find?_eq_some hmem hne) (h.named _ hmem) p

end Labels.Apart

/-! ## Text lines -/

/-- **A line that gives a text**: a label with a value behind it, both clean. -/
def Text.Gives (raw : Text) (pair : Text × Text) : Prop :=
  raw.sides? = some pair ∧ pair.2 ≠ []

instance (raw : Text) (pair : Text × Text) : Decidable (raw.Gives pair) :=
  inferInstanceAs (Decidable (_ ∧ _))

/-- **The entity with texts**, put one after another. -/
def Entity.putTexts (e : Entity) (pairs : List (Text × Text)) : Entity :=
  pairs.foldl (fun e pair => e.putText pair.1.lower pair.2) e

/-- **The state with texts** put under the entity of a key, one after another. -/
def WorldState.putTexts (s : WorldState) (key : Text) (pairs : List (Text × Text)) : WorldState :=
  pairs.foldl (fun s pair => s.modify key (·.putText pair.1.lower pair.2)) s

section Lines

variable {names : EntityNames} {key : Text} {raws : List Text} {pairs : List (Text × Text)}

/-- A line that gives a text is one where an entity is selected and no list is open. -/
theorem Text.Gives.classify {raw : Text} {pair : Text × Text} (h : raw.Gives pair) :
    Position.classify ⟨some key, none⟩ names raw = .text key pair.1.lower pair.2 := by
  obtain ⟨n, v⟩ := pair
  obtain ⟨hsides, hv⟩ := h
  have hreads := Position.reads_classify ⟨some key, none⟩ names raw
  -- nothing else can be read from a label with a value, at this position
  generalize Position.classify ⟨some key, none⟩ names raw = line at hreads
  cases line with
  | blank =>
    have hblank : raw.strip = [] := hreads
    rw [sides?, hblank] at hsides
    cases hsides
  | dropped =>
    rcases hreads with hnone | ⟨hentity, -⟩
    · rw [hnone] at hsides
      cases hsides
    · cases hentity
  | header e =>
    obtain ⟨label, hlabel, -⟩ := hreads
    cases hlabel.symm.trans hsides
    exact absurd rfl hv
  | opening e l =>
    obtain ⟨-, label, hlabel, -, -⟩ := hreads
    cases hlabel.symm.trans hsides
    exact absurd rfl hv
  | item e l i => cases hreads.1
  | text e name value =>
    obtain ⟨hposition, -, label, hlabel, rfl⟩ := hreads
    cases hlabel.symm.trans hsides
    cases hposition
    rfl

/-- **The text lines behind a header** are recorded under its entity. -/
theorem readLines_gives (h : List.Forall₂ Gives raws pairs) (s : WorldState) :
    raws.foldl (readLine names) (⟨some key, none⟩, s) =
      (⟨some key, none⟩, s.putTexts key pairs) := by
  induction h generalizing s with
  | nil => rfl
  | cons hline _ ih =>
    rw [List.foldl_cons, readLine, hline.classify]
    exact ih _

end Lines

/-! ## What is found under the names -/

namespace Entity

/-- Whether an entity has a list of a name. -/
def hasList (e : Entity) (name : Text) : Bool :=
  (e.find? name).any (·.value.isList)

variable {name value : Text}

theorem putText_eq (e : Entity) (name value : Text) :
    e.putText name value = if e.hasList name then e else e.set ⟨name, .text value⟩ := by
  rw [putText]
  split
  · next n items hfind =>
    have hlist : e.hasList name = true := by rw [hasList, hfind]; rfl
    rw [if_pos hlist]
  · next hnot =>
    rw [if_neg]
    rw [hasList, Option.any_eq_true]
    rintro ⟨⟨n, t | items⟩, hfind, hlist⟩
    · cases hlist
    · exact hnot n items hfind

/-- **After a text was put** it is found under its name, unless a list has the name. -/
theorem find?_putText (e : Entity) (name value other : Text) :
    (e.putText name value).find? other =
      if other.lower = name.lower ∧ e.hasList name = false then some ⟨name, .text value⟩
      else e.find? other := by
  rw [putText_eq]
  by_cases hlist : e.hasList name = true
  · rw [if_pos hlist, if_neg fun h => Bool.false_ne_true (h.2.symm.trans hlist)]
  · rw [if_neg hlist, find?_set]
    exact if_congr (by simp [Attribute.key, hlist]) rfl rfl

/-- No text makes a list, and none takes one away. -/
theorem hasList_putText (e : Entity) (name value other : Text) :
    (e.putText name value).hasList other = e.hasList other := by
  rw [hasList, find?_putText]
  split
  · next h =>
    have hsame : e.hasList other = e.hasList name := by rw [hasList, hasList, find?, find?, h.1]
    rw [hsame, h.2]
    rfl
  · rfl

theorem hasList_putTexts (e : Entity) (pairs : List (Text × Text)) (other : Text) :
    (e.putTexts pairs).hasList other = e.hasList other := by
  induction pairs generalizing e with
  | nil => rfl
  | cons pair pairs ih => exact (ih _).trans (hasList_putText e _ _ other)

/-- Texts of other names change nothing that is found under a name. -/
theorem find?_putTexts_of_ne (e : Entity) {pairs : List (Text × Text)}
    (h : ∀ pair ∈ pairs, pair.1.lower ≠ name.lower) :
    (e.putTexts pairs).find? name = e.find? name := by
  induction pairs generalizing e with
  | nil => rfl
  | cons pair pairs ih =>
    have hname : ¬ name.lower = pair.1.lower.lower := by
      rw [lower_lower]
      exact Ne.symm (h pair List.mem_cons_self)
    refine (ih (e.putText pair.1.lower pair.2) fun p hp => h p (List.mem_cons_of_mem _ hp)).trans ?_
    rw [find?_putText, if_neg fun hsame => hname hsame.1]

/-- **The last text of a name is found**, unless a list has the name. -/
theorem find?_putTexts {e : Entity} {before after : List (Text × Text)}
    (hlist : e.hasList name = false) (hlast : ∀ pair ∈ after, pair.1.lower ≠ name.lower) :
    (e.putTexts (before ++ (name, value) :: after)).find? name =
      some ⟨name.lower, .text value⟩ := by
  have hsplit : e.putTexts (before ++ (name, value) :: after) =
      ((e.putTexts before).putText name.lower value).putTexts after := by
    rw [putTexts, List.foldl_append]
    rfl
  have hlower : (e.putTexts before).hasList name.lower = false := by
    rw [hasList_putTexts, hasList, find?, lower_lower]
    exact hlist
  rw [hsplit, find?_putTexts_of_ne _ hlast, find?_putText, if_pos ⟨(lower_lower name).symm, hlower⟩]

end Entity

/-! ## Headers in an answer -/

namespace WorldState

theorem get_putTexts (s : WorldState) (key : Text) (pairs : List (Text × Text)) (other : Text) :
    (s.putTexts key pairs).get other =
      if other = key then (s.get key).putTexts pairs else s.get other := by
  induction pairs generalizing s with
  | nil =>
    show s.get other = if other = key then s.get key else s.get other
    split
    · next h => rw [h]
    · rfl
  | cons pair pairs ih =>
    show ((s.modify key (·.putText pair.1.lower pair.2)).putTexts key pairs).get other = _
    rw [ih, get_modify, get_modify, if_pos rfl]
    split <;> rfl

/-- **A display name in an answer**, and a colon behind it: the line selects its entity exactly when
the display name has no marks at its ends that cleaning takes. Where it does, the text lines behind
it are recorded under that entity and no other, and the reading goes on from there. -/
theorem recover_header_iff {labels : Labels} (h : labels.Apart) {key display : Text}
    (hmem : (key, display) ∈ labels) (hne : display.strip ≠ []) (hcolon : ':' ∉ display)
    (hbullet : ∀ m ∈ bulletMarks, ¬ m <+: display.dropWhile isBlank) {t : Text}
    {before raws rest : List Text} {pairs : List (Text × Text)}
    (hlines : t.lines = before ++ (display ++ [':']) :: (raws ++ rest))
    (hraws : List.Forall₂ Gives raws pairs) :
    let names := EntityNames.ofLabels labels
    let reached := before.foldl (readLine names) (.start, .empty)
    let told := reached.2.putTexts key pairs
    (reached.1.classify names (display ++ [':']) = .header key ↔
        cleanLabel display = display.strip) ∧
      (cleanLabel display = display.strip →
        recover labels t = (rest.foldl (readLine names) (⟨some key, none⟩, told)).2 ∧
        (∀ other, other ≠ key → told.get other = reached.2.get other) ∧
        ∀ name value front back, pairs = front ++ (name, value) :: back →
          (∀ pair ∈ back, pair.1.lower ≠ name.lower) → (reached.2.get key).hasList name = false →
            (told.get key).find? name = some ⟨name.lower, .text value⟩) := by
  intro names reached told
  have hline : display.SingleLine := by
    have hwhole : Text.SingleLine (display ++ [':']) := singleLine_of_mem_lines (t := t) (by
      rw [hlines]
      exact List.mem_append_right _ List.mem_cons_self)
    exact hwhole.mono (List.subset_append_left _ _)
  have hiff := h.classify_header_iff hmem hne hline hcolon hbullet reached.1
  refine ⟨hiff, fun hclean => ⟨?_, fun other hother => ?_, ?_⟩⟩
  · have hheader : readLine names reached (display ++ [':']) = (⟨some key, none⟩, reached.2) := by
      rw [readLine, hiff.mpr hclean]
      rfl
    rw [recover, hlines, List.foldl_append, List.foldl_cons, List.foldl_append]
    show (rest.foldl (readLine names)
      (raws.foldl (readLine names) (readLine names reached (display ++ [':'])))).2 = _
    rw [hheader, readLines_gives hraws]
  · rw [get_putTexts, if_neg hother]
  · rintro name value front back rfl hlast hlist
    rw [get_putTexts, if_pos rfl]
    exact Entity.find?_putTexts hlist hlast

/-- A display name with marks inside and a blank before it, and two texts of one name. -/
theorem recover_header_iff_marked :
    let labels : Labels := [("character", " Mary*Ann #2"), ("user", "Mary")]
    let t : Text :=
      "Mary:\nmood: shy\n Mary*Ann #2:\n* **Mood**: _calm_\nhair: red\nmood: glad\n\nhat:"
    recover labels t =
      ⟨[("user", ⟨[⟨"mood", .text "shy"⟩]⟩),
        ("character", ⟨[⟨"mood", .text "glad"⟩, ⟨"hair", .text "red"⟩, ⟨"hat", .list []⟩]⟩)]⟩ := by
  intro labels t
  have hlabels : labels.Apart := by decide
  have hlines : t.lines = ["Mary:".toList, "mood: shy"] ++ (" Mary*Ann #2".toList ++ [':']) ::
      (["* **Mood**: _calm_".toList, "hair: red", "mood: glad"] ++ ["".toList, "hat:"]) := by
    decide
  have hraws : List.Forall₂ Gives ["* **Mood**: _calm_".toList, "hair: red", "mood: glad"]
      [("Mood".toList, "calm".toList), ("hair", "red"), ("mood", "glad")] :=
    .cons (by decide) (.cons (by decide) (.cons (by decide) .nil))
  have hread := recover_header_iff hlabels (show ("character".toList, _) ∈ labels by decide)
    (by decide) (by decide) (by decide) hlines hraws
  exact (hread.2 (by decide)).1.trans (by decide)

/-- **A display name with a mark at its end** is no header of its entity, though no other name is
like it: nothing is recovered. -/
theorem recover_header_marked_end :
    let labels : Labels := [("character", "#1 Fan"), ("user", "Jordan")]
    labels.Apart ∧ ("character".toList, "#1 Fan".toList) ∈ labels ∧
      (∀ m ∈ bulletMarks, ¬ m <+: "#1 Fan".toList) ∧ Text.SingleLine "#1 Fan" ∧
      Position.start.classify (.ofLabels labels) "#1 Fan:" ≠ .header "character" ∧
      recover labels "#1 Fan:\nmood: calm" = .empty := by
  decide

end WorldState

end Roleplay
