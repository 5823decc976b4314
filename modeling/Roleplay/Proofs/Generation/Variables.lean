import Roleplay.Generation.Variables
import Roleplay.Proofs.Entries
import Roleplay.Proofs.Template.Tag
import Roleplay.Proofs.Text.Squeeze
import Roleplay.Proofs.World.SheetLines

/-!
# Attributes as variables

The attributes of the character are variables of a template. The name of a variable is made from
that of its attribute, and it is one that templates take, whatever the attribute is called: what is
no word character is squeezed into underscores, and word characters are the very ones of which
names in braces are made. Two attributes may come to one variable, and one without word characters
comes to none. So an attribute stands as a variable when it has a name there and no later one takes
it.

Whether a prompt has a sidebar is read off the variables, and whether the character has a block on
the sheet off the attributes. Both are settled by the attributes with content, the one by those that
stand as variables and the other by all of them.

## Main definitions

* `WorldState.characterAttributes s`: the attributes of the character, none without a state
* `AttributeValue.line v`: the text of a value as a variable
* `HoldsVariable as a`: among the attributes `as`, `a` stands as a variable

## Main results

* `isName_of_mem_stateVariables`: every variable has a name that templates take
* `get?_stateVariables_of_holdsVariable`: an attribute that stands is found under its variable
* `stateVariables_usable`: every variable can be used in a template
* `sidebar_eq`: there is a sidebar when content stands, and a block when there is content
-/

namespace Roleplay

/-! ## The names of variables -/

/-- **Variables are named by word characters.** -/
theorem only_variableName (name : Text) : (variableName name).Only Text.isWord := by
  intro c hc
  have hsqueezed := (Text.stripWhere_isInfix _ _).subset hc
  rcases Text.mem_squeeze hsqueezed with rfl | ⟨-, hword⟩
  · decide +kernel
  · simpa using hword

theorem isName_charVariable (name : Text) :
    Template.isName ("char_".toList ++ variableName name) = true := by
  rw [Template.isName_iff]
  refine ⟨by simp, fun c hc => ?_⟩
  rcases List.mem_append.mp hc with hc | hc
  · have hfront : Text.Only Text.isWord "char_" := by decide +kernel
    exact hfront c hc
  · exact only_variableName name c hc

/-! ## Attributes that stand as variables -/

/-- **The attributes of the character**, none without a state. -/
def WorldState.characterAttributes (s : Option WorldState) : List Attribute :=
  match s.bind (·.find? characterKey) with
  | none => []
  | some e => e.attributes

/-- **The text of a value as a variable**: without the blanks at its ends, items on one line. -/
def AttributeValue.line : AttributeValue → Text
  | text t => t.strip
  | list items => summarize items

/-- **An attribute that stands as a variable**: it has a name there, and no later one takes it. -/
def HoldsVariable (as : List Attribute) (a : Attribute) : Prop :=
  ∃ before behind, as = before ++ a :: behind ∧ variableName a.name ≠ [] ∧
    ∀ b ∈ behind, variableName b.name ≠ variableName a.name

theorem Attribute.asVariable?_eq (a : Attribute) :
    a.asVariable? =
      if variableName a.name = [] then none
      else some ("char_".toList ++ variableName a.name, .str a.value.line) := by
  rw [asVariable?]
  by_cases h : variableName a.name = []
  · simp [h]
  · cases a.value <;> simp [h, AttributeValue.line]

theorem HoldsVariable.mem {as : List Attribute} {a : Attribute} (h : HoldsVariable as a) :
    a ∈ as := by
  obtain ⟨before, behind, rfl, -⟩ := h
  exact List.mem_append_right before List.mem_cons_self

/-- A first attribute stands when no other one takes its name. -/
theorem holdsVariable_cons {as : List Attribute} {a b : Attribute} :
    HoldsVariable (a :: as) b ↔ HoldsVariable as b ∨
      (b = a ∧ variableName a.name ≠ [] ∧ ∀ c ∈ as, variableName c.name ≠ variableName a.name) := by
  constructor
  · rintro ⟨before, behind, heq, hname, hlast⟩
    cases before with
    | nil =>
      cases heq
      exact Or.inr ⟨rfl, hname, hlast⟩
    | cons d before =>
      cases heq
      exact Or.inl ⟨before, behind, rfl, hname, hlast⟩
  · rintro (⟨before, behind, rfl, hname, hlast⟩ | ⟨rfl, hname, hlast⟩)
    · exact ⟨a :: before, behind, rfl, hname, hlast⟩
    · exact ⟨[], as, rfl, hname, hlast⟩

theorem mem_keys_variables {as : List Attribute} {k : Text} :
    k ∈ (as.filterMap (·.asVariable?)).reverse.map (·.1) ↔
      ∃ a ∈ as, variableName a.name ≠ [] ∧ k = "char_".toList ++ variableName a.name := by
  simp only [List.map_reverse, List.mem_reverse, List.mem_map, List.mem_filterMap,
    Attribute.asVariable?_eq]
  constructor
  · rintro ⟨e, ⟨a, ha, heq⟩, rfl⟩
    split at heq
    · cases heq
    · next hname =>
      cases heq
      exact ⟨a, ha, hname, rfl⟩
  · rintro ⟨a, ha, hname, rfl⟩
    exact ⟨_, ⟨a, ha, if_neg hname⟩, rfl⟩

/-- **What is found among the variables of attributes**, the last one first: the attributes that
stand as variables. -/
theorem get?_variables_iff {as : List Attribute} {k : Text} {v : Json} :
    Entries.get? (as.filterMap (·.asVariable?)).reverse k = some v ↔
      ∃ a, HoldsVariable as a ∧ k = "char_".toList ++ variableName a.name ∧
        v = .str a.value.line := by
  induction as with
  | nil =>
    simp only [List.filterMap_nil, List.reverse_nil, Entries.get?, List.lookup_nil, reduceCtorEq,
      false_iff]
    rintro ⟨a, ha, -⟩
    exact absurd ha.mem List.not_mem_nil
  | cons a as ih =>
    simp only [holdsVariable_cons]
    by_cases hname : variableName a.name = []
    · -- nothing is found under a name that is none
      have hnone : a.asVariable? = none := by rw [Attribute.asVariable?_eq, if_pos hname]
      rw [List.filterMap_cons_none hnone, ih]
      simp [hname]
    · have hsome := a.asVariable?_eq
      rw [if_neg hname] at hsome
      rw [List.filterMap_cons_some hsome, List.reverse_cons, Entries.get?_append]
      cases hlater : Entries.get? (as.filterMap (·.asVariable?)).reverse k with
      | some w =>
        -- a later attribute takes the name
        rw [hlater] at ih
        rw [Option.some_or, ih]
        constructor
        · rintro ⟨b, hb, hk⟩
          exact ⟨b, Or.inl hb, hk⟩
        · rintro ⟨b, hb | ⟨rfl, -, hlast⟩, hk, hv⟩
          · exact ⟨b, hb, hk, hv⟩
          · have hmem := List.mem_map_of_mem (f := (·.1)) (Entries.mem_of_get?_eq_some hlater)
            obtain ⟨c, hc, -, heq⟩ := mem_keys_variables.mp hmem
            exact absurd (List.append_cancel_left (heq.symm.trans hk)) (hlast c hc)
      | none =>
        rw [hlater] at ih
        rw [Option.none_or, Entries.get?_cons]
        constructor
        · intro h
          split at h
          · next hk =>
            cases h
            refine ⟨a, Or.inr ⟨rfl, hname, fun c hc heq => ?_⟩, hk, rfl⟩
            apply Entries.get?_eq_none_iff.mp hlater
            exact mem_keys_variables.mpr ⟨c, hc, heq ▸ hname, heq ▸ hk⟩
          · cases h
        · rintro ⟨b, hb | ⟨rfl, -, -⟩, rfl, rfl⟩
          · exact absurd (ih.mpr ⟨b, hb, rfl, rfl⟩) (by simp)
          · rw [if_pos rfl]

/-! ## The variables -/

/-- The variables without the one that tells of the sidebar. -/
def attributeVariables (s : Option WorldState) : Members :=
  Entries.merge expectedVariables
    ((WorldState.characterAttributes s).filterMap (·.asVariable?))

theorem stateVariables_eq (s : Option WorldState) :
    stateVariables s =
      Entries.put (attributeVariables s) "world_sidebar"
        (.bool ((attributeVariables s).any (·.2.isTruthy))) := by
  unfold stateVariables attributeVariables WorldState.characterAttributes
  cases s.bind (·.find? characterKey) <;> rfl

theorem nodup_keys_attributeVariables (s : Option WorldState) :
    ((attributeVariables s).map (·.1)).Nodup := by
  apply Entries.nodup_keys_merge
  decide

/-- **The variables of the attributes** are those that stand, and empty ones that are expected. -/
theorem get?_attributeVariables (s : Option WorldState) (k : Text) :
    Entries.get? (attributeVariables s) k =
      (Entries.get? ((WorldState.characterAttributes s).filterMap (·.asVariable?)).reverse k).or
        (Entries.get? expectedVariables k) :=
  Entries.get?_merge_eq_last _ _ k

/-- A variable is that of an attribute that stands, or an empty one that is expected. -/
theorem of_mem_attributeVariables {s : Option WorldState} {k : Text} {v : Json}
    (h : (k, v) ∈ attributeVariables s) :
    (∃ a, HoldsVariable (WorldState.characterAttributes s) a ∧
      k = "char_".toList ++ variableName a.name ∧ v = .str a.value.line) ∨
      (k, v) ∈ expectedVariables := by
  have hget := Entries.get?_eq_some_of_mem (nodup_keys_attributeVariables s) h
  rw [get?_attributeVariables, Option.or_eq_some_iff] at hget
  rcases hget with hstands | ⟨-, hexpected⟩
  · exact Or.inl (get?_variables_iff.mp hstands)
  · exact Or.inr (Entries.mem_of_get?_eq_some hexpected)

/-- **Every variable has a name that templates take**, and is a text or a truth value. -/
theorem isName_of_mem_stateVariables {s : Option WorldState} {k : Text} {v : Json}
    (h : (k, v) ∈ stateVariables s) :
    Template.isName k = true ∧ ((∃ t, v = .str t) ∨ ∃ b, v = .bool b) := by
  rw [stateVariables_eq] at h
  rcases Entries.mem_put h with h | heq
  · rcases of_mem_attributeVariables h with ⟨a, -, rfl, rfl⟩ | hexpected
    · exact ⟨isName_charVariable a.name, Or.inl ⟨_, rfl⟩⟩
    · have hall : ∀ e ∈ expectedVariables, Template.isName e.1 = true ∧ e.2 = .str [] := by
        simp only [expectedVariables, List.mem_cons, List.not_mem_nil, or_false, forall_eq_or_imp,
          forall_eq]
        decide +kernel
      obtain ⟨hname, hv⟩ := hall _ hexpected
      exact ⟨hname, Or.inl ⟨[], hv⟩⟩
  · cases heq
    exact ⟨by decide +kernel, Or.inr ⟨_, rfl⟩⟩

/-- **An attribute that stands is found** under its variable. -/
theorem get?_stateVariables_of_holdsVariable {s : Option WorldState} {a : Attribute}
    (h : HoldsVariable (WorldState.characterAttributes s) a) :
    Entries.get? (stateVariables s) ("char_".toList ++ variableName a.name) =
      some (.str a.value.line) := by
  rw [stateVariables_eq, Entries.get?_put_of_ne _ (by simp), get?_attributeVariables,
    get?_variables_iff.mpr ⟨a, h, rfl, rfl⟩, Option.some_or]

theorem nodup_keys_stateVariables (s : Option WorldState) :
    ((stateVariables s).map (·.1)).Nodup := by
  rw [stateVariables_eq]
  exact Entries.nodup_keys_put (nodup_keys_attributeVariables s) _ _

/-- The text that is kept when a variable is set. -/
def ifSet (k : Text) : Text :=
  "\x7b\x7b#if ".toList ++ (k ++ "\x7d\x7dY\x7b\x7b/if\x7d\x7d".toList)

/-- The opener that asks whether a variable is set. -/
def setOpener (k : Text) (h : Template.isName k = true) : Template.Opener where
  kind := .whenSet
  name := k
  before := []
  between := [' ']
  behind := []
  name_ne := (Template.isName_iff.mp h).1
  name_word := (Template.isName_iff.mp h).2
  between_ne := List.cons_ne_nil _ _
  blank := by
    intro c hc
    rw [List.mem_singleton.mp hc]
    rfl

/-- **A block that asks for a variable** has its body when the variable is set. -/
theorem render_ifSet {k : Text} (h : Template.isName k = true) (vars : Template.Variables) :
    Template.render vars (ifSet k) = if vars.Truthy k then ['Y'] else [] := by
  have hbody : '\x7b' ∉ ['Y'] := by decide
  have hblock := Template.render_block vars (setOpener k h) hbody
  have htext : (setOpener k h).written ++ (['Y'] ++ (setOpener k h).kind.closingTag) = ifSet k := by
    simp only [Template.Opener.written, Template.Opener.tag, List.append_assoc]
    rfl
  rw [htext] at hblock
  exact hblock

/-- A variable is rendered as the text that its value is shown as, and a block that asks for it as
its body when the value is true or a text that is not empty. -/
theorem render_of_mem_stateVariables {s : Option WorldState} {k : Text} {v : Json}
    (h : (k, v) ∈ stateVariables s) :
    Template.Variables.Shows (stateVariables s) k
        (Template.render (stateVariables s) (Template.Segment.placeholder k).written) ∧
      ((v = .bool true ∨ ∃ t, t ≠ [] ∧ v = .str t) →
        Template.render (stateVariables s) (ifSet k) = ['Y']) ∧
      (¬ (v = .bool true ∨ ∃ t, t ≠ [] ∧ v = .str t) →
        Template.render (stateVariables s) (ifSet k) = []) := by
  obtain ⟨hname, hkind⟩ := isName_of_mem_stateVariables h
  have hget := Entries.get?_eq_some_of_mem (nodup_keys_stateVariables s) h
  have htruthy : Template.Variables.Truthy (stateVariables s) k ↔
      v = .bool true ∨ ∃ t, t ≠ [] ∧ v = .str t := by
    unfold Template.Variables.Truthy
    rcases hkind with ⟨t, rfl⟩ | ⟨b, rfl⟩
    · simp [hget]
    · simp [hget]
  rw [render_ifSet hname]
  refine ⟨?_, fun hset => if_pos (htruthy.mpr hset), fun hset => if_neg (mt htruthy.mp hset)⟩
  rw [Template.render_placeholder hname]
  exact Template.Variables.shows_text _ k

/-- **Every variable can be used in a template.** A placeholder shows its value, and a block that
asks for it keeps its body exactly when the value is true or a text that is not empty. Among the
variables are those of all attributes with a name that no later attribute takes, with the text or
the items on one line. -/
theorem stateVariables_usable (s : Option WorldState) :
    let vars := stateVariables s
    (∀ k ∈ vars.map (·.1), ∃ v, Entries.get? vars k = some v ∧
      Template.Variables.Shows vars k
        (Template.render vars (Template.Segment.placeholder k).written) ∧
      (Template.render vars (ifSet k) = ['Y'] ↔ v = .bool true ∨ ∃ t, t ≠ [] ∧ v = .str t) ∧
      (Template.render vars (ifSet k) = ['Y'] ∨ Template.render vars (ifSet k) = [])) ∧
    ∀ a, HoldsVariable (WorldState.characterAttributes s) a →
      Entries.get? vars ("char_".toList ++ variableName a.name) = some (.str a.value.line) := by
  intro vars
  refine ⟨fun k hk => ?_, fun a ha => get?_stateVariables_of_holdsVariable ha⟩
  obtain ⟨⟨k, v⟩, hmem, rfl⟩ := List.mem_map.mp hk
  obtain ⟨hshows, hkept, hdropped⟩ := render_of_mem_stateVariables hmem
  refine ⟨v, Entries.get?_eq_some_of_mem (nodup_keys_stateVariables s) hmem, hshows, ?_, ?_⟩
  · refine ⟨fun hrender => ?_, hkept⟩
    by_contra hset
    rw [hdropped hset] at hrender
    cases hrender
  · by_cases hset : v = .bool true ∨ ∃ t, t ≠ [] ∧ v = .str t
    · exact Or.inl (hkept hset)
    · exact Or.inr (hdropped hset)

/-- Two attributes of one variable, one without a variable, and a letter of which the small form has
a mark that is no word character. -/
theorem stateVariables_usable_marked :
    let s : WorldState := ⟨[(characterKey, ⟨[⟨"Mood", .text " calm "⟩, ⟨"...", .text "x"⟩,
      ⟨"İn hand!", .list [⟨"ring", "gold"⟩, ⟨"key", []⟩]⟩,
      ⟨"mood?", .text "\x7b\x7bchar\x7d\x7d "⟩]⟩)]⟩
    let vars := stateVariables s
    Entries.get? vars "char_mood" = some (.str "\x7b\x7bchar\x7d\x7d") ∧
      Entries.get? vars "char_i_n_hand" = some (.str "ring: gold, key") ∧
      Template.render vars (ifSet "char_mood") = ['Y'] := by
  intro s vars
  obtain ⟨hvars, hattributes⟩ := stateVariables_usable (some s)
  have hmood := hattributes ⟨"mood?", .text "\x7b\x7bchar\x7d\x7d "⟩
    ⟨[⟨"Mood", .text " calm "⟩, ⟨"...", .text "x"⟩,
      ⟨"İn hand!", .list [⟨"ring", "gold"⟩, ⟨"key", []⟩]⟩], [], rfl, by decide +kernel, by simp⟩
  have hhand := hattributes ⟨"İn hand!", .list [⟨"ring", "gold"⟩, ⟨"key", []⟩]⟩
    ⟨[⟨"Mood", .text " calm "⟩, ⟨"...", .text "x"⟩], [⟨"mood?", .text "\x7b\x7bchar\x7d\x7d "⟩],
      rfl, by decide +kernel, by decide +kernel⟩
  have hmoodName : "char_".toList ++ variableName "mood?" = "char_mood".toList := by
    decide +kernel
  have hhandName : "char_".toList ++ variableName "İn hand!" = "char_i_n_hand".toList := by
    decide +kernel
  rw [hmoodName] at hmood
  rw [hhandName] at hhand
  refine ⟨hmood, hhand, ?_⟩
  have hkey : "char_mood".toList ∈ (stateVariables (some s)).map (·.1) := by
    rw [List.mem_map]
    exact ⟨_, Entries.mem_of_get?_eq_some hmood, rfl⟩
  obtain ⟨v, hv, -, hkept, -⟩ := hvars _ hkey
  rw [hkept]
  cases hv.symm.trans hmood
  exact Or.inr ⟨_, by decide, rfl⟩

/-! ## The sidebar -/

/-- **Items with names**, in all lists of a state. -/
def WorldState.ItemsNamed (s : WorldState) : Prop :=
  ∀ p ∈ s.entities, ∀ a ∈ p.2.attributes, ∀ items, a.value = .list items →
    ∀ i ∈ items, i.name ≠ []

theorem Item.summary_ne_nil {i : Item} (h : i.name ≠ []) : i.summary ≠ [] := by
  rw [summary]
  split
  · exact h
  · simp [h]

/-- A value shows something as a variable when there is something in it, its items having names. -/
theorem AttributeValue.line_ne_nil_iff {v : AttributeValue}
    (h : ∀ items, v = .list items → ∀ i ∈ items, i.name ≠ []) :
    v.line ≠ [] ↔ v.hasContent = true := by
  cases v with
  | text t => simp [line, hasContent]
  | list items =>
    cases items with
    | nil => simp [line, hasContent, summarize, Text.join]
    | cons i items =>
      have hi := Item.summary_ne_nil (h _ rfl i List.mem_cons_self)
      cases items <;> simp [line, hasContent, summarize, Text.join, List.intercalate, hi]

theorem WorldState.ItemsNamed.items {s : WorldState} (h : s.ItemsNamed) {a : Attribute}
    (ha : a ∈ WorldState.characterAttributes (some s)) (items : List Item)
    (hitems : a.value = .list items) : ∀ i ∈ items, i.name ≠ [] := by
  rw [characterAttributes] at ha
  split at ha
  · cases ha
  · next e he =>
    have hentity : (characterKey, e) ∈ s.entities := Entries.mem_of_get?_eq_some he
    exact h _ hentity a ha items hitems

/-- **Something is shown by a variable** when an attribute with content stands. -/
theorem any_attributeVariables_iff {s : Option WorldState} (hnamed : ∀ w ∈ s, w.ItemsNamed) :
    (attributeVariables s).any (·.2.isTruthy) = true ↔
      ∃ a, HoldsVariable (WorldState.characterAttributes s) a ∧ a.hasContent = true := by
  have hcontent : ∀ a ∈ WorldState.characterAttributes s,
      (Json.str a.value.line).isTruthy = true ↔ a.hasContent = true := by
    intro a ha
    cases s with
    | none => cases ha
    | some w =>
      rw [Attribute.hasContent,
        ← AttributeValue.line_ne_nil_iff ((hnamed w rfl).items ha)]
      simp [Json.isTruthy]
  rw [List.any_eq_true]
  constructor
  · rintro ⟨⟨k, v⟩, hmem, htruthy⟩
    rcases of_mem_attributeVariables hmem with ⟨a, ha, -, rfl⟩ | hexpected
    · exact ⟨a, ha, (hcontent a ha.mem).mp htruthy⟩
    · -- what is expected is empty where no attribute stands
      simp only [expectedVariables, List.mem_cons, Prod.mk.injEq, List.not_mem_nil, or_false]
        at hexpected
      rcases hexpected with ⟨-, rfl⟩ | ⟨-, rfl⟩ | ⟨-, rfl⟩ <;> cases htruthy
  · rintro ⟨a, ha, hfull⟩
    have hget := get?_variables_iff.mpr ⟨a, ha, rfl, rfl⟩
    have hfound : Entries.get? (attributeVariables s) ("char_".toList ++ variableName a.name) =
        some (.str a.value.line) := by
      rw [get?_attributeVariables, hget, Option.some_or]
    exact ⟨_, Entries.mem_of_get?_eq_some hfound, (hcontent a ha.mem).mpr hfull⟩

/-- **The character has a block** when an attribute has content. -/
theorem characterSheet_ne_nil_iff (s : Option WorldState) (name : Option Text) :
    WorldState.characterSheet s name ≠ [] ↔
      ∃ a ∈ WorldState.characterAttributes s, a.hasContent = true := by
  rw [WorldState.characterSheet, WorldState.characterAttributes]
  cases s.bind (·.find? characterKey) with
  | none => simp [Entity.sheet?]
  | some e =>
    have hempty := e.sheet_isEmpty (Text.given name "Character")
    rw [Entity.sheet?, ← List.any_eq_true (p := Attribute.hasContent)]
    show _ ↔ e.hasContent = true
    rw [Ne, ← List.isEmpty_iff, hempty]
    simp

/-- **The sidebar and the block.** Where items have names, a prompt has a sidebar exactly when an
attribute with content stands as a variable, and the character has a block on the sheet exactly when
any attribute has content. So a sidebar is never without a block, and where all attributes with
content stand there is the one exactly when there is the other. -/
theorem sidebar_eq (s : Option WorldState) (hnamed : ∀ w ∈ s, w.ItemsNamed) :
    ∃ sidebar : Bool, Entries.get? (stateVariables s) "world_sidebar" = some (.bool sidebar) ∧
      (sidebar = true ↔
        ∃ a, HoldsVariable (WorldState.characterAttributes s) a ∧ a.hasContent = true) ∧
      ∀ name, (WorldState.characterSheet s name ≠ [] ↔
          ∃ a ∈ WorldState.characterAttributes s, a.hasContent = true) ∧
        (sidebar = true → WorldState.characterSheet s name ≠ []) ∧
        ((∀ a ∈ WorldState.characterAttributes s, a.hasContent = true →
            HoldsVariable (WorldState.characterAttributes s) a) →
          (sidebar = true ↔ WorldState.characterSheet s name ≠ [])) := by
  have hsidebar := any_attributeVariables_iff hnamed
  refine ⟨_, by rw [stateVariables_eq, Entries.get?_put_self], hsidebar, fun name => ?_⟩
  rw [hsidebar, characterSheet_ne_nil_iff s name]
  refine ⟨Iff.rfl, ?_, fun hstand => ⟨?_, ?_⟩⟩
  · rintro ⟨a, ha, hfull⟩
    exact ⟨a, ha.mem, hfull⟩
  · rintro ⟨a, ha, hfull⟩
    exact ⟨a, ha.mem, hfull⟩
  · rintro ⟨a, ha, hfull⟩
    exact ⟨a, hstand a ha hfull, hfull⟩

/-- An attribute with content that has no variable, and one that has. -/
theorem sidebar_eq_clothes :
    let s : WorldState := ⟨[(userKey, ⟨[⟨"mood", .text "calm"⟩]⟩),
      (characterKey, ⟨[⟨"...", .text "x"⟩, ⟨"clothes", .list [⟨"dress", []⟩]⟩,
        ⟨"mood", .text " "⟩]⟩)]⟩
    s.ItemsNamed ∧ Entries.get? (stateVariables (some s)) "world_sidebar" = some (.bool true) ∧
      WorldState.characterSheet (some s) (some "Aria") ≠ [] := by
  intro s
  have hnamed : s.ItemsNamed := by
    simp [s, WorldState.ItemsNamed]
  have hstands : HoldsVariable (WorldState.characterAttributes (some s))
      ⟨"clothes", .list [⟨"dress", []⟩]⟩ :=
    ⟨[⟨"...", .text "x"⟩], [⟨"mood", .text " "⟩], rfl, by decide +kernel, by decide +kernel⟩
  obtain ⟨sidebar, hget, hiff, hsheet⟩ := sidebar_eq (some s) fun w hw => by
    cases hw
    exact hnamed
  have hsidebar : sidebar = true := hiff.mpr ⟨_, hstands, by decide⟩
  refine ⟨hnamed, ?_, (hsheet (some "Aria")).2.1 hsidebar⟩
  rw [hget, hsidebar]

/-- **There may be a block without a sidebar**: an empty attribute takes the variable of one with
content. -/
theorem sidebar_ne_block :
    ¬ ∀ s : WorldState, s.ItemsNamed →
      (Entries.get? (stateVariables (some s)) "world_sidebar" = some (.bool true) ↔
        WorldState.characterSheet (some s) none ≠ []) := by
  intro hagree
  let s : WorldState := ⟨[(characterKey, ⟨[⟨"mood", .text "calm"⟩, ⟨"mood!", .text []⟩]⟩)]⟩
  have hsheet : WorldState.characterSheet (some s) none ≠ [] := by decide +kernel
  have hnone : (attributeVariables (some s)).any (·.2.isTruthy) = false := by decide +kernel
  have hget := (hagree s (by simp [s, WorldState.ItemsNamed])).mpr hsheet
  rw [stateVariables_eq, Entries.get?_put_self, hnone] at hget
  cases hget

end Roleplay
