import Roleplay.Proofs.World.Entities
import Roleplay.Proofs.World.Labels
import Roleplay.Proofs.World.SheetLines

/-!
# How a sheet is read

A sheet whose parts are readable is read line by line as what it shows. Where the reading stands
and what the state is are independent of each other. A line of a sheet moves the position as the
sheet's layout says, and what it adds is a change of the one entity under whose header it stands; so
the lines of an attribute add that attribute, and those of a block its entity.

## Main definitions

* `Item.Readable`, `Attribute.Readable`, `Entity.Readable`: what no line of a sheet is mistaken in,
  where some names select entities
* `EntityNames.Heads`: the line of a display name selects an entity
* `Attribute.readInto`: what the lines of an attribute change

## Main results

* `Position.classify_label`, `Position.classify_colon`, `Position.classify_value`: what a line means
  that is put together from a label and a value
* `readLine_header`, `readLine_text`, `readLine_opening`, `readLine_item`: the lines of a sheet
* `readLines_attribute`, `readLines_attributes`, `readLines_entity`, `readLines_blocks`: its parts
* `WorldState.lines_sheet_of_readable`: a sheet is read as the lines from which it is put together
* `WorldState.recover_sheet?_of_readable`: and as what it shows
-/

namespace Roleplay

open Text

/-! ## Readable parts -/

/-- **A readable item.** Without a description it must not be named as an entity is. -/
structure Item.Readable (names : EntityNames) (i : Item) : Prop where
  name : i.name.IsLabel
  description : i.description ≠ [] → i.description.IsValue
  bare : i.description = [] → names.isExact i.name = false

/-- **A readable value** of an attribute. The name of a list must not select an entity. -/
def AttributeValue.Readable (names : EntityNames) (name : Text) : AttributeValue → Prop
  | .text t => t.strip ≠ [] → t.IsValue
  | .list items => names.select? name = none ∧ ∀ i ∈ items, i.Readable names

/-- **A readable attribute**, its name in small letters. -/
structure Attribute.Readable (names : EntityNames) (a : Attribute) : Prop where
  name : a.name.IsLabel
  small : a.name.lower = a.name
  value : a.value.Readable names a.name

/-- **A readable entity**: attributes with content, the texts first. -/
structure Entity.Readable (names : EntityNames) (e : Entity) : Prop where
  ne : e.attributes ≠ []
  distinct : e.Distinct
  ordered : e.attributes.Pairwise fun a b => a.value.isList = true → b.value.isList = true
  content : ∀ a ∈ e.attributes, a.hasContent = true
  attributes : ∀ a ∈ e.attributes, a.Readable names

/-- **A heading of an entity**: the line of its display name selects it, wherever it stands. -/
def EntityNames.Heads (names : EntityNames) (key display : Text) : Prop :=
  ∀ (p : Position) (s : WorldState), readLine names (p, s) (display ++ [':']) = (⟨some key, none⟩, s)

/-- A readable text with content is a value. -/
theorem AttributeValue.Readable.isValue {names : EntityNames} {name t : Text}
    (h : (AttributeValue.text t).Readable names name)
    (hc : (AttributeValue.text t).hasContent = true) : t.IsValue ∧ t ≠ [] := by
  have hs : t.strip ≠ [] := by simpa [hasContent] using hc
  refine ⟨h hs, ?_⟩
  rintro rfl
  exact hs strip_nil

/-! ## What a line of a sheet means -/

/-- A line without a bullet is taken apart at its first colon, and its sides are cleaned. -/
theorem Position.classify_sides {raw left right label value : Text} (p : Position)
    (names : EntityNames) (hraw : raw.strip = left ++ ':' :: right) (hne : left ≠ [])
    (hcolon : ':' ∉ left) (hbullet : ∀ m ∈ bulletMarks, ¬ m <+: left)
    (hlabel : cleanLabel left.strip = label) (hlabel' : label ≠ [])
    (hvalue : cleanValue right.strip = value) :
    p.classify names raw =
      if value.isEmpty then p.classifyHeader names (raw.head?.any isBlank) label
      else p.classifyPair label value := by
  have hline : (left ++ ':' :: right).isEmpty = false := by simp
  have hlabel' : label.isEmpty = false := by simpa using hlabel'
  simp only [classify, hraw, dropBullet?_eq_none hne hbullet, Option.getD_none,
    splitColon?_append hne hcolon, hlabel, hvalue, hline, hlabel', Bool.false_eq_true, if_false]

/-- **A line put together from a label and a value** is taken apart into the same. -/
theorem Position.classify_label {raw label value v : Text} (p : Position) (names : EntityNames)
    (hraw : raw.strip = label ++ ':' :: value) (hl : label.IsLabel) (hv : value.strip = v)
    (hclean : cleanValue v = v) :
    p.classify names raw =
      if v.isEmpty then p.classifyHeader names (raw.head?.any isBlank) label
      else p.classifyPair label v := by
  have hs : label.strip = label := hl.stripped
  exact p.classify_sides names hraw hl.ne hl.colonFree hl.noBullet (by rw [hs, hl.clean]) hl.ne
    (by rw [hv, hclean])

/-- A line that ends in its colon. -/
theorem Position.classify_colon {raw label : Text} (p : Position) (names : EntityNames)
    (hraw : raw.strip = label ++ [':']) (hl : label.IsLabel) :
    p.classify names raw = p.classifyHeader names (raw.head?.any isBlank) label := by
  rw [p.classify_label names hraw hl strip_nil rfl, if_pos List.isEmpty_nil]

/-- A line with a value behind its colon. -/
theorem Position.classify_value {raw label value : Text} (p : Position) (names : EntityNames)
    (hraw : raw.strip = label ++ ':' :: ' ' :: value) (hl : label.IsLabel) (hv : value.IsValue)
    (hne : value ≠ []) : p.classify names raw = p.classifyPair label value := by
  have hvalue : strip (' ' :: value) = value :=
    (strip_append_of_blank (s := [' ']) (by decide) value).trans hv.stripped
  rw [p.classify_label names hraw hl hvalue hv.clean, if_neg (by simpa using hne)]

/-- A header that is not indented is no item. -/
theorem Position.classifyHeader_unindented (p : Position) (names : EntityNames) (label : Text) :
    p.classifyHeader names false label =
      match names.select? label, p.entity with
      | some e, _ => .header e
      | none, some e => .opening e label.lower
      | none, none => .dropped := by
  obtain ⟨_ | e, _ | l⟩ := p <;> rfl

theorem Text.IsLabel.stripped_append_colon {label : Text} (h : label.IsLabel) :
    strip (label ++ [':']) = label ++ [':'] :=
  Stripped.append_append h.stripped (by decide) h.ne (List.cons_ne_nil _ _) []

theorem Text.IsLabel.stripped_append_value {label value : Text} (h : label.IsLabel)
    (hv : value.Stripped) (hne : value ≠ []) :
    strip (label ++ ':' :: ' ' :: value) = label ++ ':' :: ' ' :: value :=
  Stripped.append_append h.stripped hv h.ne hne [':', ' ']

theorem Text.IsLabel.head?_any {label : Text} (h : label.IsLabel) (t : Text) :
    (label ++ t).head?.any isBlank = false := by
  rw [List.head?_append_of_ne_nil _ h.ne, Option.any_eq_false]
  exact fun c hc => by simp [(stripped_iff.mp h.stripped).1 c hc]

section Lines

variable {names : EntityNames} {key label name value : Text}

/-- A blank line closes the open list. -/
theorem readLine_nil (p : Position) (s : WorldState) :
    readLine names (p, s) [] = (⟨p.entity, none⟩, s) := rfl

/-- **A header selects its entity**, wherever it stands. -/
theorem readLine_header (hl : label.IsLabel) (hs : names.select? label = some key) :
    names.Heads key label := by
  intro p s
  have hclass : p.classify names (label ++ [':']) = .header key := by
    rw [p.classify_colon names hl.stripped_append_colon hl, hl.head?_any,
      Position.classifyHeader_unindented, hs]
  rw [readLine, hclass]
  rfl

/-- **Any other header opens a list** of the selected entity. -/
theorem readLine_opening (hl : name.IsLabel) (hsmall : name.lower = name)
    (hs : names.select? name = none) (l : Option Text) (s : WorldState) :
    readLine names (⟨some key, l⟩, s) (name ++ [':']) =
      (⟨some key, some name⟩, s.modify key (·.openList name)) := by
  have hclass : Position.classify ⟨some key, l⟩ names (name ++ [':']) = .opening key name := by
    rw [Position.classify_colon _ names hl.stripped_append_colon hl, hl.head?_any,
      Position.classifyHeader_unindented, hs, hsmall]
  rw [readLine, hclass]
  rfl

/-- **A text of the selected entity**, when no list is open. -/
theorem readLine_text (hl : name.IsLabel) (hsmall : name.lower = name) (hv : value.IsValue)
    (hne : value ≠ []) (s : WorldState) :
    readLine names (⟨some key, none⟩, s) (name ++ [':', ' '] ++ value) =
      (⟨some key, none⟩, s.modify key (·.putText name value)) := by
  have hraw : strip (name ++ [':', ' '] ++ value) = name ++ ':' :: ' ' :: value := by
    rw [List.append_assoc]
    exact hl.stripped_append_value hv.stripped hne
  have hclass : Position.classify ⟨some key, none⟩ names (name ++ [':', ' '] ++ value) =
      .text key name value := by
    rw [Position.classify_value _ names hraw hl hv hne, Position.classifyPair, hsmall]
  rw [readLine, hclass]
  rfl

/-- **An item of the open list.** -/
theorem readLine_item {i : Item} (hi : i.Readable names) (list : Text) (s : WorldState) :
    readLine names (⟨some key, some list⟩, s) i.sheetLine =
      (⟨some key, some list⟩, s.modify key (·.append list i)) := by
  have hclass : Position.classify ⟨some key, some list⟩ names i.sheetLine = .item key list i := by
    have hindent := strip_append_of_blank (s := [' ', ' ']) (by decide) i.line
    by_cases hd : i.description = []
    · -- nothing behind the colon: the indentation makes it an item, not a header
      have hline : i.line = i.name ++ [':'] := by rw [Item.line, hd]; rfl
      rw [hline, hi.name.stripped_append_colon] at hindent
      rw [Item.sheetLine, hline, Position.classify_colon _ _ hindent hi.name,
        Position.classifyHeader, hi.bare hd]
      exact congrArg _ (congrArg _ hd.symm)
    · -- a value: an item, since the list is open
      have hv := hi.description hd
      have hline : i.line = i.name ++ ':' :: ' ' :: i.description := by
        rw [Item.line, if_neg (by simpa using hd), List.append_assoc]
        rfl
      rw [hline, hi.name.stripped_append_value hv.stripped hd] at hindent
      rw [Item.sheetLine, hline, Position.classify_value _ _ hindent hi.name hv hd,
        Position.classifyPair]
  rw [readLine, hclass]
  rfl

/-! ## The lines of an attribute -/

/-- The entity with items appended one after the other. -/
def Entity.appendAll (name : Text) (items : List Item) (e : Entity) : Entity :=
  items.foldl (fun e i => e.append name i) e

/-- **What the lines of an attribute change** of its entity. -/
def Attribute.readInto (e : Entity) (a : Attribute) : Entity :=
  match a.value with
  | .text t => e.putText a.name t
  | .list items => (e.openList a.name).appendAll a.name items

/-- The list that is open after the lines of an attribute. -/
def Attribute.opened? (a : Attribute) : Option Text :=
  match a.value with
  | .text _ => none
  | .list _ => some a.name

theorem readLines_items {items : List Item} (h : ∀ i ∈ items, i.Readable names) (list : Text)
    (f : Entity → Entity) (s : WorldState) :
    (items.map (·.sheetLine)).foldl (readLine names) (⟨some key, some list⟩, s.modify key f) =
      (⟨some key, some list⟩, s.modify key (Entity.appendAll list items ∘ f)) := by
  induction items generalizing f with
  | nil => rfl
  | cons i items ih =>
    rw [List.map_cons, List.foldl_cons, readLine_item (h i List.mem_cons_self),
      WorldState.modify_modify, ih fun j hj => h j (List.mem_cons_of_mem i hj)]
    rfl

/-- **The lines of an attribute** change its entity. A text must not stand under an open list. -/
theorem readLines_attribute (key : Text) {a : Attribute} (h : a.Readable names)
    (hcontent : a.hasContent = true) {l : Option Text} (hl : l = none ∨ a.value.isList = true)
    (s : WorldState) :
    a.sheetLines.foldl (readLine names) (⟨some key, l⟩, s) =
      (⟨some key, a.opened?⟩, s.modify key (Attribute.readInto · a)) := by
  obtain ⟨name, value⟩ := a
  obtain ⟨hname, hsmall, hvalue⟩ := h
  cases value with
  | text t =>
    -- no list is open, so the line is a text
    obtain rfl : l = none := hl.resolve_right (by simp [AttributeValue.isList])
    obtain ⟨hv, hne⟩ := hvalue.isValue hcontent
    exact readLine_text hname hsmall hv hne s
  | list items =>
    -- the header selects no entity, so it opens the list and the items follow
    show ((name ++ [':']) :: items.map (·.sheetLine)).foldl _ _ = _
    rw [List.foldl_cons, readLine_opening hname hsmall hvalue.1, readLines_items hvalue.2]
    rfl

/-- **The lines of attributes**, with no text after a list. -/
theorem readLines_attributes (key : Text) {as : List Attribute} (hne : as ≠ [])
    (h : ∀ a ∈ as, a.Readable names) (hcontent : ∀ a ∈ as, a.hasContent = true)
    (horder : as.Pairwise fun a b => a.value.isList = true → b.value.isList = true)
    {l : Option Text} (hl : l = none ∨ ∀ a ∈ as, a.value.isList = true) (s : WorldState) :
    ∃ l', (as.flatMap (·.sheetLines)).foldl (readLine names) (⟨some key, l⟩, s) =
      (⟨some key, l'⟩, s.modify key (as.foldl Attribute.readInto ·)) := by
  -- Induction on the attributes: when a list is open, only lists are left.
  induction as generalizing l s with
  | nil => exact absurd rfl hne
  | cons a as ih =>
    obtain ⟨hafter, horder⟩ := List.pairwise_cons.mp horder
    have hfirst := readLines_attribute key (h a List.mem_cons_self)
      (hcontent a List.mem_cons_self) (hl.imp_right fun hl => hl a List.mem_cons_self) s
    rw [List.flatMap_cons, List.foldl_append, hfirst]
    cases as with
    | nil => exact ⟨_, rfl⟩
    | cons b bs =>
      have hopened : a.opened? = none ∨ ∀ c ∈ b :: bs, c.value.isList = true := by
        rw [Attribute.opened?]
        cases hv : a.value with
        | text t => exact Or.inl rfl
        | list items => exact Or.inr fun c hc => hafter c hc (by rw [hv]; rfl)
      obtain ⟨l', hrest⟩ := ih (List.cons_ne_nil b bs) (fun c hc => h c (List.mem_cons_of_mem a hc))
        (fun c hc => hcontent c (List.mem_cons_of_mem a hc)) horder hopened
        (s.modify key (Attribute.readInto · a))
      rw [WorldState.modify_modify] at hrest
      exact ⟨l', hrest⟩

end Lines

/-! ## What the attributes add -/

/-- Items come to the end of the last list. -/
theorem Entity.appendAll_concat {name : Text} {as : List Attribute}
    (h : name.lower ∉ as.map (·.key)) (done items : List Item) :
    appendAll name items ⟨as ++ [⟨name, .list done⟩]⟩ =
      ⟨as ++ [⟨name, .list (done ++ items)⟩]⟩ := by
  induction items generalizing done with
  | nil => rw [List.append_nil]; rfl
  | cons i items ih =>
    have hi : append ⟨as ++ [⟨name, .list done⟩]⟩ name i = ⟨as ++ [⟨name, .list (done ++ [i])⟩]⟩ :=
      congrArg mk (appendIn_append_cons h rfl i)
    have hrest := ih (done ++ [i])
    rw [← hi, List.append_assoc] at hrest
    exact hrest

namespace Attribute

/-- **A new attribute comes to the end.** -/
theorem readInto_of_notMem {a : Attribute} {as : List Attribute} (h : a.key ∉ as.map (·.key)) :
    readInto ⟨as⟩ a = ⟨as ++ [a]⟩ := by
  obtain ⟨name, value⟩ := a
  have hnone : Entity.find? ⟨as⟩ name = none := Entity.find?_eq_none_iff.mpr h
  cases value with
  | text t =>
    show Entity.putText ⟨as⟩ name t = _
    rw [Entity.putText, hnone]
    exact congrArg Entity.mk (Entity.setIn_of_notMem h)
  | list items =>
    have hopen : Entity.openList ⟨as⟩ name = ⟨as ++ [⟨name, .list []⟩]⟩ := by
      rw [Entity.openList, hnone]
      exact congrArg Entity.mk (Entity.setIn_of_notMem h)
    show Entity.appendAll name items (Entity.openList ⟨as⟩ name) = _
    rw [hopen, Entity.appendAll_concat h]
    rfl

/-- **New attributes come to the end** in their order. -/
theorem foldl_readInto {as bs : List Attribute} (h : ((as ++ bs).map (·.key)).Nodup) :
    bs.foldl readInto ⟨as⟩ = ⟨as ++ bs⟩ := by
  induction bs generalizing as with
  | nil => simp
  | cons b bs ih =>
    have hb : b.key ∉ as.map (·.key) := by
      rw [List.map_append, List.map_cons] at h
      exact fun hmem => List.disjoint_of_nodup_append h hmem List.mem_cons_self
    rw [List.foldl_cons, readInto_of_notMem hb, ih (by simpa using h), List.append_assoc]
    rfl

end Attribute

/-! ## Blocks -/

theorem Entity.Distinct.condensed {e : Entity} (h : e.Distinct) : e.condensed.Distinct := by
  -- what has content, in another order
  have hperm : e.condensed.attributes.Perm (e.attributes.filter (·.hasContent)) := by
    have hsplit := List.filter_append_perm (fun a : Attribute => a.value.isList)
      (e.attributes.filter (·.hasContent))
    exact List.perm_append_comm.trans hsplit
  have hsub : ((e.attributes.filter (·.hasContent)).map (·.key)).Nodup :=
    List.Nodup.sublist (List.filter_sublist.map _) h
  exact (hperm.map _).nodup_iff.mpr hsub

theorem Entity.ordered_condensed (e : Entity) :
    e.condensed.attributes.Pairwise fun a b => a.value.isList = true → b.value.isList = true := by
  rw [condensed, List.pairwise_append]
  refine ⟨?_, ?_, ?_⟩
  · -- no text is a list
    refine List.pairwise_of_forall_mem_list fun a ha b _ hlist => ?_
    simp [hlist] at ha
  · exact List.pairwise_of_forall_mem_list fun a _ b hb _ => (List.mem_filter.mp hb).2
  · exact fun a _ b hb _ => (List.mem_filter.mp hb).2

/-- What is shown of an entity is readable, when its attributes with content are. -/
theorem Entity.readable_condensed {names : EntityNames} {e : Entity} (hd : e.Distinct)
    (hc : e.hasContent = true)
    (h : ∀ a ∈ e.attributes, a.hasContent = true → a.Readable names) :
    e.condensed.Readable names where
  ne := condensed_ne_nil_iff.mpr hc
  distinct := hd.condensed
  ordered := e.ordered_condensed
  content := fun _ ha => (mem_condensed.mp ha).2
  attributes := fun a ha => h a (mem_condensed.mp ha).1 (mem_condensed.mp ha).2

section Blocks

variable {labels : Labels} {names : EntityNames} {key display : Text}

/-- **The lines of a block** add its entity, wherever the reading stands. -/
theorem readLines_entity {e : Entity} (hheads : names.Heads key display) (he : e.Readable names)
    {s : WorldState} (hnew : key ∉ s.keys) (p : Position) :
    ∃ p', (e.sheetLines display).foldl (readLine names) (p, s) =
      (p', ⟨s.entities ++ [(key, e)]⟩) := by
  obtain ⟨l, hattributes⟩ := readLines_attributes key he.ne he.attributes he.content he.ordered
    (Or.inl rfl) s
  have hread : e.attributes.foldl Attribute.readInto .empty = e :=
    Attribute.foldl_readInto he.distinct
  have hadded : s.modify key (e.attributes.foldl Attribute.readInto ·) =
      ⟨s.entities ++ [(key, e)]⟩ := by
    rw [WorldState.modify, WorldState.modifyIn_of_notMem hnew, hread]
  refine ⟨⟨some key, l⟩, ?_⟩
  rw [Entity.sheetLines, List.foldl_cons, hheads, hattributes, hadded]

/-- **The lines of blocks** add their entities. -/
theorem readLines_blocks {es : List (Text × Entity)}
    (hheads : ∀ q ∈ es, names.Heads q.1 (labels.display q.1)) (h : ∀ q ∈ es, q.2.Readable names)
    {s : WorldState} (hnew : ((s.entities ++ es).map (·.1)).Nodup) (p : Position) :
    ∃ p', (WorldState.sheetLines ⟨es⟩ labels).foldl (readLine names) (p, s) =
      (p', ⟨s.entities ++ es⟩) := by
  -- Induction on the blocks: the next header selects its entity wherever the last block ended.
  induction es generalizing p s with
  | nil => exact ⟨p, by simp [WorldState.sheetLines]⟩
  | cons q es ih =>
    obtain ⟨k, e⟩ := q
    have hfresh : k ∉ s.keys := by
      rw [List.map_append, List.map_cons] at hnew
      exact fun hmem => List.disjoint_of_nodup_append hnew hmem List.mem_cons_self
    obtain ⟨p', hblock⟩ := readLines_entity (hheads (k, e) List.mem_cons_self)
      (h (k, e) List.mem_cons_self) hfresh p
    cases es with
    | nil => exact ⟨p', by simpa [WorldState.sheetLines] using hblock⟩
    | cons r es =>
      -- the empty line, and then the other blocks
      obtain ⟨p'', hrest⟩ := ih (fun q hq => hheads q (List.mem_cons_of_mem _ hq))
        (fun q hq => h q (List.mem_cons_of_mem _ hq)) (s := ⟨s.entities ++ [(k, e)]⟩)
        (by simpa using hnew) ⟨p'.entity, none⟩
      refine ⟨p'', ?_⟩
      rw [WorldState.sheetLines, List.map_cons, List.map_cons, List.intercalate_cons_cons,
        List.append_assoc, List.foldl_append, hblock, List.singleton_append, List.foldl_cons,
        readLine_nil]
      rw [WorldState.sheetLines, List.map_cons] at hrest
      rw [hrest, List.append_assoc, List.singleton_append]

end Blocks

/-! ## The text of a sheet -/

section Sheets

variable {labels : Labels} {names : EntityNames} {l : Text}

theorem Item.sheetLine_line {i : Item} (h : i.Readable names) :
    i.sheetLine ≠ [] ∧ i.sheetLine.SingleLine := by
  refine ⟨List.cons_ne_nil _ _, ?_⟩
  have hname := h.name.singleLine
  have hline : i.line.SingleLine := by
    rw [line]
    split
    · exact hname.append (by decide)
    · next hd =>
      have hv := (h.description (by simpa using hd)).singleLine
      exact (hname.append (by decide)).append hv
  exact SingleLine.append (by decide) hline

theorem Attribute.sheetLines_line {a : Attribute} (h : a.Readable names)
    (hc : a.hasContent = true) (hl : l ∈ a.sheetLines) : l ≠ [] ∧ l.SingleLine := by
  obtain ⟨name, value⟩ := a
  obtain ⟨hname, -, hvalue⟩ := h
  cases value with
  | text t =>
    have hv := (hvalue.isValue hc).1
    rw [List.mem_singleton.mp hl]
    exact ⟨by simp, (hname.singleLine.append (by decide)).append hv.singleLine⟩
  | list items =>
    rcases List.mem_cons.mp hl with rfl | hl
    · exact ⟨by simp, hname.singleLine.append (by decide)⟩
    · obtain ⟨i, hi, rfl⟩ := List.mem_map.mp hl
      exact Item.sheetLine_line (hvalue.2 i hi)

theorem Entity.sheetLines_line {e : Entity} (h : e.Readable names) {display : Text}
    (hd : display.SingleLine) (hl : l ∈ e.sheetLines display) : l ≠ [] ∧ l.SingleLine := by
  rcases List.mem_cons.mp hl with rfl | hl
  · exact ⟨by simp, hd.append (by decide)⟩
  · obtain ⟨a, ha, hl⟩ := List.mem_flatMap.mp hl
    exact Attribute.sheetLines_line (h.attributes a ha) (h.content a ha) hl

end Sheets

namespace WorldState

variable {labels : Labels} {s : WorldState}

theorem nodup_keys_condensed (hd : s.Distinct) : s.condensed.keys.Nodup := by
  have hkeys : s.condensed.keys = (s.entities.filter (·.2.hasContent)).map (·.1) := by
    simp [keys, condensed]
  rw [hkeys]
  exact List.Nodup.sublist (List.filter_sublist.map _) hd.keys

/-- The default display names stand for none only in a sheet without blocks. -/
theorem sheet?_eq_sheet (h : ∀ q ∈ s.entities, (labels.get? q.1).isSome = true) :
    sheet? (some s) labels = s.sheet labels := by
  obtain ⟨es⟩ := s
  cases labels with
  | nil =>
    -- no key has a display name, so there are no entities
    cases es with
    | nil => rfl
    | cons q es => exact absurd (h q List.mem_cons_self) Bool.false_ne_true
  | cons l labels => rfl

/-- **A sheet has the lines** from which it is put together, when what it shows is readable. -/
theorem lines_sheet_of_readable (names : EntityNames)
    (hdisplays : ∀ q ∈ s.condensed.entities, (labels.display q.1).SingleLine)
    (h : ∀ q ∈ s.condensed.entities, q.2.Readable names) :
    lines (s.sheet labels) = s.condensed.sheetLines labels := by
  have hline : ∀ ls ∈ s.condensed.entities.map fun q => q.2.sheetLines (labels.display q.1),
      ls ≠ [] ∧ ∀ l ∈ ls, l ≠ [] ∧ SingleLine l := by
    intro ls hls
    obtain ⟨q, hq, rfl⟩ := List.mem_map.mp hls
    exact ⟨List.cons_ne_nil _ _, fun l hl =>
      Entity.sheetLines_line (h q hq) (hdisplays q hq) hl⟩
  rw [sheet_eq_join]
  refine lines_join (fun l hl => ?_) fun l hl => ?_
  · rcases mem_intercalate hl with rfl | ⟨ls, hls, hmem⟩
    · exact fun c hc => absurd hc List.not_mem_nil
    · exact ((hline ls hls).2 l hmem).2
  · exact ne_nil_of_mem_getLast?_intercalate
      (fun ls hls => ⟨(hline ls hls).1, fun m hm => ((hline ls hls).2 m hm).1⟩) hl

/-- **A sheet is read as what it shows**, when that is readable under headings of its entities. -/
theorem recover_sheet?_of_readable (hd : s.Distinct)
    (hnamed : ∀ q ∈ s.entities, (labels.get? q.1).isSome = true)
    (hdisplays : ∀ q ∈ s.condensed.entities, (labels.display q.1).SingleLine ∧
      EntityNames.Heads (.ofLabels labels) q.1 (labels.display q.1))
    (h : ∀ q ∈ s.condensed.entities, q.2.Readable (.ofLabels labels)) :
    recover labels (sheet? (some s) labels) = s.condensed := by
  obtain ⟨p, hblocks⟩ : ∃ p, (s.condensed.sheetLines labels).foldl
      (readLine (.ofLabels labels)) (.start, .empty) = (p, s.condensed) :=
    readLines_blocks (fun q hq => (hdisplays q hq).2) h (s := .empty) (nodup_keys_condensed hd)
      .start
  have hlines : lines (s.sheet labels) = s.condensed.sheetLines labels :=
    lines_sheet_of_readable (.ofLabels labels) (fun q hq => (hdisplays q hq).1) h
  rw [sheet?_eq_sheet hnamed, recover, hlines, hblocks]

end WorldState

end Roleplay
