import Roleplay.Generation.WorldState
import Roleplay.Proofs.Text.Words
import Roleplay.Proofs.World.RoundTrip

/-!
# The sheet that is asked for

A model is asked for the mood, position and clothes of the character and for the position and
clothes of the user, each under the name of who it is about. The names are free, and a header is that
of an entity where it contains a display name. Besides the two names the only header of such a sheet
is that of the clothes, so all depends on it. Where no name occurs in the word "clothes" it opens the
list of the entity that it stands under, and the sheet is read back. Where one does, no list is ever
opened: the clothes are read as texts, of the entity that their header selects.

## Main definitions

* `WorldReport`, `WorldReport.state`: what is asked for, as a state
* `Item.Worded`, `Attribute.Worded`, `WorldReport.Worded`: what is made of words
* `EntityNames.Unopening`: a line that opens no list
* `Unlisted`: the invariant of a reading without lists

## Main results

* `Text.IsPhrase.isLabel`, `Text.IsPhrase.isValue`: phrases are read as they stand
* `Attribute.Worded.readable`: attributes in words are readable
* `Unlisted.foldl`: lines that open no list leave a state without lists
* `WorldReport.recover_sheet_iff`: when the sheet that is asked for is read back
-/

namespace Roleplay

open Text

/-! ## Phrases in a line -/

section Phrases

variable {t : Text}

theorem isAlphanumeric_eq_false_of_isEmphasis {c : Char} (h : isEmphasis c = true) :
    isAlphanumeric c = false := by
  simp only [isEmphasis, Bool.or_eq_true, beq_iff_eq] at h
  rcases h with (rfl | rfl) | rfl <;> decide

theorem isAlphanumeric_eq_false_of_isBullet {c : Char} (h : isBullet c = true) :
    isAlphanumeric c = false := by
  simp only [isBullet, Bool.or_eq_true, beq_iff_eq] at h
  rcases h with ((rfl | rfl) | rfl) | rfl <;> decide +kernel

/-- **A phrase is a label.** -/
theorem Text.IsPhrase.isLabel (h : t.IsPhrase) : t.IsLabel := by
  have hs : t.strip = t := h.stripped
  refine ⟨h.ne, h.singleLine, h.notMem (by decide) (by decide), ?_, ?_⟩
  · -- a mark is neither a letter nor a numeral
    intro m hm hstart
    obtain ⟨c, rest, rfl, hbullet⟩ : ∃ c rest, m = c :: rest ∧ isBullet c = true := by
      simp only [bulletMarks, List.mem_cons, List.not_mem_nil, or_false] at hm
      rcases hm with rfl | rfl | rfl | rfl <;> exact ⟨_, _, rfl, rfl⟩
    have hspace : c ≠ ' ' := by
      rintro rfl
      exact absurd hbullet (by decide)
    exact h.notMem (isAlphanumeric_eq_false_of_isBullet hbullet) hspace
      (hstart.subset List.mem_cons_self)
  · have hclean : t.stripWhere (fun c => isEmphasis c || c == '#') = t := by
      refine h.stripWhere_eq fun c hc => ?_
      simp only [Bool.or_eq_true, beq_iff_eq] at hc
      rcases hc with hc | rfl
      · exact isAlphanumeric_eq_false_of_isEmphasis hc
      · decide
    rw [cleanLabel, hs, hclean, hs]

/-- **A phrase is a value.** -/
theorem Text.IsPhrase.isValue (h : t.IsPhrase) : t.IsValue := by
  have hs : t.strip = t := h.stripped
  refine ⟨h.singleLine, ?_⟩
  rw [cleanValue, hs, h.stripWhere_eq fun c hc => isAlphanumeric_eq_false_of_isEmphasis hc, hs]

end Phrases

/-! ## What is made of words -/

/-- **An item in words**, with a description. -/
structure Item.Worded (i : Item) : Prop where
  name : i.name.IsPhrase
  description : i.description.IsPhrase

instance (i : Item) : Decidable i.Worded :=
  decidable_of_iff (i.name.IsPhrase ∧ i.description.IsPhrase)
    ⟨fun ⟨h₁, h₂⟩ => ⟨h₁, h₂⟩, fun h => ⟨h.name, h.description⟩⟩

/-- **A value in words**: a phrase, or some items in words. -/
def AttributeValue.Worded : AttributeValue → Prop
  | .text t => t.IsPhrase
  | .list items => items ≠ [] ∧ ∀ i ∈ items, i.Worded

/-- **An attribute in words**, its name in small letters. -/
structure Attribute.Worded (a : Attribute) : Prop where
  name : a.name.IsPhrase
  small : a.name.lower = a.name
  value : a.value.Worded

theorem Attribute.Worded.hasContent {a : Attribute} (h : a.Worded) : a.hasContent = true := by
  obtain ⟨name, value⟩ := a
  obtain ⟨-, -, hv⟩ := h
  cases value with
  | text t =>
    have hs : t.strip = t := IsPhrase.stripped hv
    simp [Attribute.hasContent, AttributeValue.hasContent, hs, IsPhrase.ne hv]
  | list items => simp [Attribute.hasContent, AttributeValue.hasContent, hv.1]

theorem Item.Worded.readable {i : Item} (h : i.Worded) (names : EntityNames) :
    i.Readable names where
  name := h.name.isLabel
  description := fun _ => h.description.isValue
  bare := fun hnil => absurd hnil h.description.ne

/-- **Attributes in words are readable**, when no list among them is named as an entity is. -/
theorem Attribute.Worded.readable {a : Attribute} (h : a.Worded) {names : EntityNames}
    (hs : a.value.isList = true → names.select? a.name = none) : a.Readable names := by
  obtain ⟨name, value⟩ := a
  obtain ⟨hname, hsmall, hv⟩ := h
  refine ⟨hname.isLabel, hsmall, ?_⟩
  cases value with
  | text t => exact fun _ => IsPhrase.isValue hv
  | list items => exact ⟨hs rfl, fun i hi => (hv.2 i hi).readable names⟩

/-! ## Lines that open no list -/

/-- A line that neither opens a list nor gives an item of one. -/
def Line.IsListless : Line → Prop
  | .opening _ _ => False
  | .item _ _ _ => False
  | _ => True

/-- **A line that opens no list**, where none is open. -/
def EntityNames.Unopening (names : EntityNames) (l : Text) : Prop :=
  ∀ p : Position, p.list = none → (p.classify names l).IsListless

/-- **The invariant of a reading without lists**: none is open, and the state has none. -/
structure Unlisted (p : Position) (s : WorldState) : Prop where
  position : p.list = none
  texts : ∀ q ∈ s.entities, ∀ a ∈ q.2.attributes, a.value.isList = false

namespace Unlisted

variable {names : EntityNames} {p : Position} {s : WorldState}

theorem start : Unlisted .start .empty where
  position := rfl
  texts := fun _ h => absurd h List.not_mem_nil

/-- A line without a list keeps the invariant: the only thing that it can record is a text. -/
theorem record (h : Unlisted p s) {line : Line} (hl : line.IsListless) :
    Unlisted (p.after line) (s.record line) := by
  cases line with
  | blank => exact ⟨rfl, h.texts⟩
  | dropped => exact h
  | header e => exact ⟨rfl, h.texts⟩
  | opening e l => exact hl.elim
  | item e l i => exact hl.elim
  | text e name value =>
    refine ⟨h.position, ?_⟩
    intro q hq a ha
    rcases WorldState.mem_modifyIn hq with hq | rfl
    · exact h.texts q hq a ha
    · have hget : ∀ b ∈ (s.get e).attributes, b.value.isList = false := by
        rw [WorldState.get]
        cases he : s.find? e with
        | none => exact fun b hb => absurd hb List.not_mem_nil
        | some e' => exact h.texts _ (WorldState.mem_entities_of_find?_eq_some he)
      simp only [Entity.putText] at ha
      split at ha
      · exact hget a ha
      · rcases Entity.mem_setIn ha with rfl | ha
        · rfl
        · exact hget a ha

/-- **Lines that open no list** leave a state without lists. -/
theorem foldl {ls : List Text} (h : Unlisted p s) (hls : ∀ l ∈ ls, names.Unopening l) :
    Unlisted (ls.foldl (readLine names) (p, s)).1 (ls.foldl (readLine names) (p, s)).2 := by
  induction ls generalizing p s with
  | nil => exact h
  | cons l ls ih =>
    have hline : Unlisted (readLine names (p, s) l).1 (readLine names (p, s) l).2 :=
      h.record (hls l List.mem_cons_self p h.position)
    exact ih hline fun m hm => hls m (List.mem_cons_of_mem l hm)

end Unlisted

namespace EntityNames

variable {names : EntityNames} {label value : Text}

theorem unopening_nil (names : EntityNames) : names.Unopening [] :=
  fun _ _ => trivial

/-- A header that selects an entity. -/
theorem unopening_colon (hl : label.IsLabel) (hs : names.select? label ≠ none) :
    names.Unopening (label ++ [':']) := by
  intro p _
  obtain ⟨key, hkey⟩ := Option.ne_none_iff_exists'.mp hs
  rw [p.classify_colon names hl.stripped_append_colon hl, hl.head?_any,
    Position.classifyHeader_unindented, hkey]
  trivial

/-- A label with a value, indented or not. -/
theorem unopening_value {indent : Text} (hindent : Only isBlank indent) (hl : label.IsLabel)
    (hv : value.IsValue) (hne : value ≠ []) :
    names.Unopening (indent ++ (label ++ [':', ' '] ++ value)) := by
  intro p hp
  have hraw : strip (indent ++ (label ++ [':', ' '] ++ value)) = label ++ ':' :: ' ' :: value := by
    rw [strip_append_of_blank hindent, List.append_assoc]
    exact hl.stripped_append_value hv.stripped hne
  rw [p.classify_value names hraw hl hv hne, Position.classifyPair, hp]
  cases p.entity <;> trivial

end EntityNames

/-- **The lines of an attribute in words** open no list when its name selects an entity. -/
theorem Attribute.Worded.unopening {names : EntityNames} {a : Attribute} (h : a.Worded)
    (hs : a.value.isList = true → names.select? a.name ≠ none) :
    ∀ l ∈ a.sheetLines, names.Unopening l := by
  obtain ⟨name, value⟩ := a
  obtain ⟨hname, -, hv⟩ := h
  intro l hl
  cases value with
  | text t =>
    rw [List.mem_singleton.mp hl]
    have hnone : Only isBlank ([] : Text) := by decide
    exact EntityNames.unopening_value hnone hname.isLabel (IsPhrase.isValue hv) (IsPhrase.ne hv)
  | list items =>
    rcases List.mem_cons.mp hl with rfl | hl
    · exact EntityNames.unopening_colon hname.isLabel (hs rfl)
    · obtain ⟨i, hi, rfl⟩ := List.mem_map.mp hl
      have hitem := hv.2 i hi
      have hline : i.line = i.name ++ [':', ' '] ++ i.description := by
        rw [Item.line, if_neg (by simpa using hitem.description.ne)]
      rw [Item.sheetLine, hline]
      exact EntityNames.unopening_value (by decide) hitem.name.isLabel hitem.description.isValue
        hitem.description.ne

/-! ## Reports -/

/-- **What a model is asked for.** -/
structure WorldReport where
  mood : Text
  position : Text
  clothes : List Item
  userPosition : Text
  userClothes : List Item

namespace WorldReport

/-- What is told of the character. -/
def character (r : WorldReport) : Entity :=
  ⟨[⟨"mood", .text r.mood⟩, ⟨"position", .text r.position⟩, ⟨"clothes", .list r.clothes⟩]⟩

/-- What is told of the user. -/
def user (r : WorldReport) : Entity :=
  ⟨[⟨"position", .text r.userPosition⟩, ⟨"clothes", .list r.userClothes⟩]⟩

/-- **A report as a state.** -/
def state (r : WorldReport) : WorldState :=
  ⟨[(characterKey, r.character), (userKey, r.user)]⟩

/-- **A report in words.** -/
structure Worded (r : WorldReport) : Prop where
  mood : r.mood.IsPhrase
  position : r.position.IsPhrase
  clothes : r.clothes ≠ [] ∧ ∀ i ∈ r.clothes, i.Worded
  userPosition : r.userPosition.IsPhrase
  userClothes : r.userClothes ≠ [] ∧ ∀ i ∈ r.userClothes, i.Worded

instance (r : WorldReport) : Decidable r.Worded :=
  decidable_of_iff
    (r.mood.IsPhrase ∧ r.position.IsPhrase ∧ (r.clothes ≠ [] ∧ ∀ i ∈ r.clothes, i.Worded) ∧
      r.userPosition.IsPhrase ∧ r.userClothes ≠ [] ∧ ∀ i ∈ r.userClothes, i.Worded)
    ⟨fun ⟨h₁, h₂, h₃, h₄, h₅⟩ => ⟨h₁, h₂, h₃, h₄, h₅⟩,
      fun h => ⟨h.mood, h.position, h.clothes, h.userPosition, h.userClothes⟩⟩

variable {r : WorldReport}

/-- The attributes of a report in words, of which the clothes alone are a list. -/
theorem Worded.attributes (h : r.Worded) {q : Text × Entity} (hq : q ∈ r.state.entities)
    {a : Attribute} (ha : a ∈ q.2.attributes) :
    a.Worded ∧ (a.value.isList = true → a.name = "clothes".toList) := by
  have hmood : IsPhrase "mood" ∧ Text.lower "mood" = "mood".toList := by decide
  have hposition : IsPhrase "position" ∧ Text.lower "position" = "position".toList := by decide
  have hclothes : IsPhrase "clothes" ∧ Text.lower "clothes" = "clothes".toList := by decide
  simp only [state, character, user, List.mem_cons, List.not_mem_nil, or_false] at hq
  rcases hq with rfl | rfl
  · simp only [List.mem_cons, List.not_mem_nil, or_false] at ha
    rcases ha with rfl | rfl | rfl
    · exact ⟨⟨hmood.1, hmood.2, h.mood⟩, fun hlist => absurd hlist Bool.false_ne_true⟩
    · exact ⟨⟨hposition.1, hposition.2, h.position⟩,
        fun hlist => absurd hlist Bool.false_ne_true⟩
    · exact ⟨⟨hclothes.1, hclothes.2, h.clothes⟩, fun _ => rfl⟩
  · simp only [List.mem_cons, List.not_mem_nil, or_false] at ha
    rcases ha with rfl | rfl
    · exact ⟨⟨hposition.1, hposition.2, h.userPosition⟩,
        fun hlist => absurd hlist Bool.false_ne_true⟩
    · exact ⟨⟨hclothes.1, hclothes.2, h.userClothes⟩, fun _ => rfl⟩

theorem distinct_state (r : WorldReport) : r.state.Distinct where
  keys := show [characterKey, userKey].Nodup by decide
  entities := by
    intro q hq
    simp only [state, List.mem_cons, List.not_mem_nil, or_false] at hq
    rcases hq with rfl | rfl
    · exact show [Text.lower "mood", Text.lower "position", Text.lower "clothes"].Nodup by decide
    · exact show [Text.lower "position", Text.lower "clothes"].Nodup by decide

/-- **The whole of a report in words is shown**, in its order. -/
theorem Worded.condensed_state (h : r.Worded) : r.state.condensed = r.state := by
  have hcondensed : ∀ q ∈ r.state.entities, q.2.condensed = q.2 := by
    intro q hq
    have hshown : q.2.attributes.filter (·.hasContent) = q.2.attributes :=
      List.filter_eq_self.mpr fun a ha => (h.attributes hq ha).1.hasContent
    rw [Entity.condensed, hshown]
    simp only [state, List.mem_cons, List.not_mem_nil, or_false] at hq
    rcases hq with rfl | rfl <;> rfl
  have hcontent : ∀ q ∈ r.state.entities, q.2.hasContent = true := by
    intro q hq
    rw [← Entity.condensed_ne_nil_iff, hcondensed q hq]
    simp only [state, List.mem_cons, List.not_mem_nil, or_false] at hq
    rcases hq with rfl | rfl <;> exact List.cons_ne_nil _ _
  have hmap : r.state.entities.map (fun q => (q.1, q.2.condensed)) = r.state.entities := by
    conv_rhs => rw [← List.map_id r.state.entities]
    exact List.map_congr_left fun q hq => congrArg (q.1, ·) (hcondensed q hq)
  rw [WorldState.condensed, List.filter_eq_self.mpr hcontent]
  exact congrArg WorldState.mk hmap

/-- A report in words is readable where the clothes select no entity. -/
theorem Worded.readable (h : r.Worded) {names : EntityNames} (hs : names.select? "clothes" = none)
    {q : Text × Entity} (hq : q ∈ r.state.condensed.entities) : q.2.Readable names := by
  obtain ⟨⟨k, e⟩, hmem, rfl⟩ := List.mem_map.mp hq
  obtain ⟨he, hcontent⟩ := List.mem_filter.mp hmem
  refine Entity.readable_condensed (r.distinct_state.entities _ he) hcontent fun a ha _ => ?_
  obtain ⟨hword, hlist⟩ := h.attributes he ha
  exact hword.readable fun hl => by rw [hlist hl]; exact hs

/-! ## Reading a report -/

section Reading

variable {labels : Labels}

/-- What a report tells of is named. -/
def Named (r : WorldReport) (labels : Labels) : Prop :=
  ∀ q ∈ r.state.entities, q.1 ≠ [] ∧ (labels.get? q.1).isSome = true

/-- **A report is read back** where the clothes select no entity. -/
theorem Worded.recover_eq (h : r.Worded) (hlabels : labels.Legible) (hnamed : r.Named labels)
    (hs : EntityNames.select? (.ofLabels labels) "clothes" = none) :
    WorldState.recover labels (WorldState.sheet? (some r.state) labels) = r.state := by
  have hheads : ∀ q ∈ r.state.condensed.entities, (labels.display q.1).SingleLine ∧
      EntityNames.Heads (.ofLabels labels) q.1 (labels.display q.1) := by
    intro q hq
    rw [h.condensed_state] at hq
    obtain ⟨hkey, hsome⟩ := hnamed q hq
    exact ⟨(hlabels.isLabel_display hsome).singleLine, hlabels.heads hkey hsome⟩
  rw [WorldState.recover_sheet?_of_readable r.distinct_state (fun q hq => (hnamed q hq).2) hheads
    fun q hq => h.readable hs hq, h.condensed_state]

/-- Its lines open no list where the clothes select an entity. -/
theorem Worded.unopening (h : r.Worded) (hlabels : labels.Legible) (hnamed : r.Named labels)
    (hs : EntityNames.select? (.ofLabels labels) "clothes" ≠ none) :
    ∀ l ∈ r.state.sheetLines labels, EntityNames.Unopening (.ofLabels labels) l := by
  intro l hl
  rcases mem_intercalate hl with rfl | ⟨ls, hls, hmem⟩
  · exact EntityNames.unopening_nil _
  · obtain ⟨q, hq, rfl⟩ := List.mem_map.mp hls
    rcases List.mem_cons.mp hmem with rfl | hmem
    · -- the header of the block
      obtain ⟨hkey, hsome⟩ := hnamed q hq
      have hlabel := hlabels.isLabel_display hsome
      have hselect := EntityNames.select?_display hlabels.distinct hlabels.stripped
        (hlabels.display_mem hsome) hkey hlabel.ne
      exact EntityNames.unopening_colon hlabel (hselect ▸ Option.some_ne_none _)
    · obtain ⟨a, ha, hl⟩ := List.mem_flatMap.mp hmem
      obtain ⟨hword, hlist⟩ := h.attributes hq ha
      exact hword.unopening (fun hal => by rw [hlist hal]; exact hs) l hl

/-- **A report is not read back** where the clothes select an entity: its lists are lost. -/
theorem Worded.recover_ne (h : r.Worded) (hlabels : labels.Legible) (hnamed : r.Named labels)
    (hs : EntityNames.select? (.ofLabels labels) "clothes" ≠ none) :
    WorldState.recover labels (WorldState.sheet? (some r.state) labels) ≠ r.state := by
  -- the text has the lines of the report, whichever names select entities
  have hlines : lines (r.state.sheet labels) = r.state.sheetLines labels := by
    have hdisplays : ∀ q ∈ r.state.condensed.entities, (labels.display q.1).SingleLine := by
      rw [h.condensed_state]
      exact fun q hq => (hlabels.isLabel_display (hnamed q hq).2).singleLine
    have hshown : lines (r.state.sheet labels) = r.state.condensed.sheetLines labels :=
      WorldState.lines_sheet_of_readable [] hdisplays fun q hq => h.readable rfl hq
    rwa [h.condensed_state] at hshown
  have hunlisted := Unlisted.start.foldl (h.unopening hlabels hnamed hs)
  intro hread
  rw [WorldState.sheet?_eq_sheet fun q hq => (hnamed q hq).2, WorldState.recover, hlines] at hread
  rw [hread] at hunlisted
  have hclothes : (AttributeValue.list r.clothes).isList = false :=
    hunlisted.texts (characterKey, r.character) List.mem_cons_self
      ⟨"clothes", .list r.clothes⟩ (by simp [character])
  exact absurd hclothes (by simp [AttributeValue.isList])

end Reading

section Names

variable {name username : Text}

theorem ofNames_eq (hn : name ≠ []) (hu : username ≠ []) :
    Labels.ofNames (some name) (some username) = [(characterKey, name), (userKey, username)] := by
  simp [Labels.ofNames, given, orElse, orEmpty, hn, hu]

/-- Two different phrases are told apart. -/
theorem legible_ofNames (hn : name.IsPhrase) (hu : username.IsPhrase)
    (hne : name.lower ≠ username.lower) : (Labels.ofNames (some name) (some username)).Legible := by
  rw [ofNames_eq hn.ne hu.ne]
  constructor
  · simpa using hne
  · simpa using ⟨hn.isLabel, hu.isLabel⟩

/-- **When the sheet that is asked for is read back**: exactly when neither name occurs in the word
"clothes". -/
theorem recover_sheet_iff (hn : name.IsPhrase) (hu : username.IsPhrase)
    (hne : name.lower ≠ username.lower) (h : r.Worded) :
    let labels := Labels.ofNames (some name) (some username)
    WorldState.recover labels (WorldState.sheet? (some r.state) labels) = r.state ↔
      ¬ name.lower <:+: "clothes".toList ∧ ¬ username.lower <:+: "clothes".toList := by
  intro labels
  have hlegible : labels.Legible := legible_ofNames hn hu hne
  have hlabels : labels = [(characterKey, name), (userKey, username)] := ofNames_eq hn.ne hu.ne
  have hclothes : Text.lower "clothes" = "clothes".toList := by decide
  have hkeys : characterKey ≠ [] ∧ userKey ≠ [] := by decide
  have hnamed : r.Named labels := by
    rw [hlabels]
    intro q hq
    simp only [state, List.mem_cons, List.not_mem_nil, or_false] at hq
    rcases hq with rfl | rfl
    · exact ⟨hkeys.1, rfl⟩
    · exact ⟨hkeys.2, rfl⟩
  constructor
  · intro hread
    have hselect : EntityNames.select? (.ofLabels labels) "clothes" = none :=
      by_contra fun hs => h.recover_ne hlegible hnamed hs hread
    have hnot : ∀ l ∈ labels, ¬ l.2.lower <:+: Text.lower "clothes" := by
      intro l hl hoccurs
      refine EntityNames.select?_ne_none hlegible.stripped ?_ hl (hlegible.displays l hl).ne
        hoccurs hselect
      rw [hlabels]
      simpa using hkeys
    rw [hclothes, hlabels] at hnot
    simpa using hnot
  · rintro ⟨hname, husername⟩
    refine h.recover_eq hlegible hnamed (EntityNames.select?_eq_none hlegible.stripped ?_)
    rw [hclothes, hlabels]
    simpa using ⟨hname, husername⟩

/-- The default state as a report. -/
theorem recover_sheet_default :
    let labels := Labels.ofNames (some "Élodie Vane") (some "Jo Cloth")
    WorldState.recover labels (WorldState.sheet? (some .default) labels) = .default :=
  let worn : List Item :=
    [⟨"top", "casual shirt"⟩, ⟨"bottom", "comfortable pants"⟩, ⟨"shoes", "everyday footwear"⟩]
  (@recover_sheet_iff ⟨"neutral", "standing nearby", worn, "standing nearby", worn⟩
    "Élodie Vane" "Jo Cloth" (by decide) (by decide) (by decide) (by decide)).mpr (by decide)

/-- A character whose name occurs in the word: the clothes of both are texts of that character. -/
theorem recover_sheet_misread :
    let r : WorldReport :=
      ⟨"calm", "by the door", [⟨"dress", "blue"⟩], "in a chair", [⟨"coat", "grey"⟩]⟩
    let labels := Labels.ofNames (some "Lot") (some "Jordan")
    Text.IsPhrase "Lot" ∧ Text.IsPhrase "Jordan" ∧ Text.lower "Lot" ≠ Text.lower "Jordan" ∧
      r.Worded ∧ WorldState.recover labels (WorldState.sheet? (some r.state) labels) ≠ r.state := by
  decide

end Names

end WorldReport

end Roleplay
