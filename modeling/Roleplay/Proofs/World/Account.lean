import Roleplay.Proofs.Entries
import Roleplay.Proofs.World.AttributeMap
import Roleplay.Proofs.World.Recovered

/-!
# Every line accounted for

An answer is read as an account of its lines: each opens a list of an entity, gives an item of the
open list or a text of the selected entity, or tells of nothing. The recovered state is what the
account says and no more. Its entities and their attributes stand in the order in which they are
told of first; a list has all items that were given under any of its openings; and a text is the
last that was given, unless a list of its name is opened anywhere, before it or after it.

An item is appended to the list of its name, and would be lost where there is none. The reading
gives items only while a list is open, and a list that was opened stays a list, so there always is
one: that is what `Account.Opened` keeps from line to line.

A line tells of the entity that is selected where it stands. The header that selects it tells of
nothing yet, so an entity without any other line is not in the state.

## Main definitions

* `Line.Reads`: what a line says where it stands
* `Account`, `Position.scan`: the lines as they are read
* `Account.entities`, `Account.names`, `Account.items`, `Account.texts`: what they tell
* `WorldState.Tells`: a state tells what an account tells, and nothing else

## Main results

* `Position.reads_classify`, `Position.scanned_scan`: lines are read for what they say
* `Account.Opened.concat`, `Account.Kept.record`: what one line keeps
* `Account.Kept.foldl`: what all lines keep
* `WorldState.accounts_recover`: a recovered state tells what its lines tell
-/

namespace Roleplay

open Text

/-! ## Reading a line -/

/-- The label and the value of a line, clean, when it has a label. -/
def Text.sides? (raw : Text) : Option (Text × Text) :=
  match splitColon? ((dropBullet? raw.strip).getD raw.strip) with
  | none => none
  | some (label, value) =>
    if (cleanLabel label).isEmpty then none else some (cleanLabel label, cleanValue value)

/-- **What a line says** where the reading stands. Only a line without a label is dropped, and one
that stands in front of all entities and selects none. -/
def Line.Reads (names : EntityNames) (p : Position) (raw : Text) : Line → Prop
  | .blank => raw.strip = []
  | .dropped => raw.sides? = none ∨
    p.entity = none ∧ ∀ label, raw.sides? = some (label, []) → names.select? label = none
  | .header e => ∃ label, raw.sides? = some (label, []) ∧ names.select? label = some e
  | .opening e l => p.entity = some e ∧
    ∃ label, raw.sides? = some (label, []) ∧ names.select? label = none ∧ l = label.lower
  | .item e l i => p = ⟨some e, some l⟩ ∧ raw.sides? = some (i.name, i.description)
  | .text e n v =>
    p = ⟨some e, none⟩ ∧ v ≠ [] ∧ ∃ label, raw.sides? = some (label, v) ∧ n = label.lower

namespace Position

variable {names : EntityNames} {p : Position} {raw label value : Text}

theorem eq_mk {e : Text} {l : Option Text} (he : p.entity = some e) (hl : p.list = l) :
    p = ⟨some e, l⟩ := by
  obtain ⟨entity, list⟩ := p
  cases he
  cases hl
  rfl

theorem reads_classifyHeader (h : raw.sides? = some (label, [])) (indented : Bool) :
    (p.classifyHeader names indented label).Reads names p raw := by
  rw [classifyHeader]
  split
  · next he hl _ => exact ⟨eq_mk he hl, h⟩
  · split
    · next hs => exact ⟨label, h, hs⟩
    · next hs he => exact ⟨he, label, h, hs, rfl⟩
    · next hs he =>
      refine Or.inr ⟨he, fun label' h' => ?_⟩
      cases h.symm.trans h'
      exact hs

theorem reads_classifyPair (h : raw.sides? = some (label, value)) (hvalue : value ≠ []) :
    (p.classifyPair label value).Reads names p raw := by
  rw [classifyPair]
  split
  · next he hl => exact ⟨eq_mk he hl, h⟩
  · next he hl => exact ⟨eq_mk he hl, hvalue, label, h, rfl⟩
  · next he =>
    refine Or.inr ⟨he, fun label' h' => ?_⟩
    cases h.symm.trans h'
    exact absurd rfl hvalue

/-- **Every line is read for what it says.** -/
theorem reads_classify (p : Position) (names : EntityNames) (raw : Text) :
    (p.classify names raw).Reads names p raw := by
  rw [classify]
  split
  · next hblank => exact List.isEmpty_iff.mp hblank
  · split
    · next hsplit => exact Or.inl (by rw [sides?, hsplit])
    · next label value hsplit =>
      simp only
      split
      · next hlabel => exact Or.inl (by rw [sides?, hsplit]; exact if_pos hlabel)
      · next hlabel =>
        have hsides : raw.sides? = some (cleanLabel label, cleanValue value) := by
          rw [sides?, hsplit]
          exact if_neg hlabel
        split
        · -- under a bullet
          next he hl => exact ⟨eq_mk he hl, hsides⟩
        · split
          · next hvalue =>
            rw [List.isEmpty_iff.mp hvalue] at hsides
            exact reads_classifyHeader hsides _
          · next hvalue => exact reads_classifyPair hsides (by simpa using hvalue)

end Position

/-! ## The account of an answer -/

/-- **An account**: lines as they are read, in their order. -/
abbrev Account := List Line

/-- **The account of lines**, read from a position on. -/
def Position.scan (names : EntityNames) (p : Position) : List Text → Account
  | [] => []
  | raw :: raws =>
    let line := p.classify names raw
    line :: (p.after line).scan names raws

/-- **An account says what the lines say**, one line after another. -/
inductive Scanned (names : EntityNames) : Position → List Text → Account → Prop
  | nil (p : Position) : Scanned names p [] []
  | cons {p : Position} {raw : Text} {raws : List Text} {line : Line} {acc : Account}
      (hline : line.Reads names p raw) (hrest : Scanned names (p.after line) raws acc) :
      Scanned names p (raw :: raws) (line :: acc)

theorem Position.scanned_scan (names : EntityNames) (p : Position) (raws : List Text) :
    Scanned names p raws (p.scan names raws) := by
  induction raws generalizing p with
  | nil => exact .nil p
  | cons raw raws ih => exact .cons (p.reads_classify names raw) (ih _)

theorem readLines_eq_record (names : EntityNames) (p : Position) (s : WorldState)
    (raws : List Text) :
    (raws.foldl (readLine names) (p, s)).2 = (p.scan names raws).foldl WorldState.record s := by
  induction raws generalizing p s with
  | nil => rfl
  | cons raw raws ih => exact ih _ _

/-- The entity and the name that a line tells of. -/
def Line.told? : Line → Option (Text × Text)
  | .opening e l => some (e, l)
  | .item e l _ => some (e, l)
  | .text e n _ => some (e, n)
  | _ => none

/-- The item that a line gives to a list of an entity. -/
def Line.item? (e l : Text) : Line → Option Item
  | .item e' l' i => if (e', l') = (e, l) then some i else none
  | _ => none

/-- The text that a line gives to a name of an entity. -/
def Line.text? (e n : Text) : Line → Option Text
  | .text e' n' v => if (e', n') = (e, n) then some v else none
  | _ => none

namespace Account

/-- What the lines tell of, in their order. -/
def told (acc : Account) : List (Text × Text) :=
  acc.filterMap Line.told?

/-- The entities, in the order in which they are told of first. -/
def entities (acc : Account) : List Text :=
  (acc.told.map (·.1)).eraseDups

/-- The names that are told of an entity, in the order in which they come first. -/
def names (acc : Account) (e : Text) : List Text :=
  ((acc.told.filter (·.1 = e)).map (·.2)).eraseDups

/-- All items that are given to a list of an entity, under any of its openings. -/
def items (acc : Account) (e l : Text) : List Item :=
  acc.filterMap (Line.item? e l)

/-- All texts that are given to a name of an entity. -/
def texts (acc : Account) (e n : Text) : List Text :=
  acc.filterMap (Line.text? e n)

/-- **What is told under a name**: a list where any line opens one, otherwise the last text. -/
def value? (acc : Account) (e n : Text) : Option AttributeValue :=
  if .opening e n ∈ acc then some (.list (acc.items e n))
  else (acc.texts e n).getLast?.map .text

variable {acc : Account} {line : Line} {e l n : Text}

/-! ## What is told -/

theorem mem_told_iff : (e, n) ∈ acc.told ↔ ∃ line ∈ acc, line.told? = some (e, n) :=
  List.mem_filterMap

theorem mem_names_iff : n ∈ acc.names e ↔ (e, n) ∈ acc.told := by
  simp only [names, List.mem_eraseDups, List.mem_map, List.mem_filter, decide_eq_true_eq]
  constructor
  · rintro ⟨⟨e, n⟩, ⟨htold, rfl⟩, rfl⟩
    exact htold
  · intro htold
    exact ⟨(e, n), ⟨htold, rfl⟩, rfl⟩

theorem mem_items_iff {i : Item} : i ∈ acc.items e l ↔ .item e l i ∈ acc := by
  rw [items, List.mem_filterMap]
  constructor
  · rintro ⟨line, hline, hitem⟩
    cases line with
    | item e' l' j =>
      obtain ⟨hsame, hj⟩ := Option.ite_none_right_eq_some.mp hitem
      cases hsame
      cases hj
      exact hline
    | _ => cases hitem
  · intro hi
    exact ⟨_, hi, if_pos rfl⟩

theorem mem_texts_iff {v : Text} : v ∈ acc.texts e n ↔ .text e n v ∈ acc := by
  rw [texts, List.mem_filterMap]
  constructor
  · rintro ⟨line, hline, htext⟩
    cases line with
    | text e' n' w =>
      obtain ⟨hsame, hw⟩ := Option.ite_none_right_eq_some.mp htext
      cases hsame
      cases hw
      exact hline
    | _ => cases htext
  · intro hv
    exact ⟨_, hv, if_pos rfl⟩

/-- What has a value is told of. -/
theorem mem_names_of_value? {v : AttributeValue} (h : acc.value? e n = some v) :
    n ∈ acc.names e := by
  rw [mem_names_iff, mem_told_iff]
  rw [value?] at h
  split at h
  · next hopen => exact ⟨_, hopen, rfl⟩
  · obtain ⟨t, ht, -⟩ := Option.map_eq_some_iff.mp h
    exact ⟨_, mem_texts_iff.mp (List.mem_of_getLast? ht), rfl⟩

/-! ## One line more -/

theorem told_concat (acc : Account) (line : Line) :
    told (acc ++ [line]) = acc.told ++ line.told?.toList := by
  rw [told, List.filterMap_append]
  cases h : line.told? <;> simp [told, h]

theorem items_concat (acc : Account) (line : Line) (e l : Text) :
    items (acc ++ [line]) e l = acc.items e l ++ (line.item? e l).toList := by
  rw [items, List.filterMap_append]
  cases h : line.item? e l <;> simp [items, h]

theorem texts_concat (acc : Account) (line : Line) (e n : Text) :
    texts (acc ++ [line]) e n = acc.texts e n ++ (line.text? e n).toList := by
  rw [texts, List.filterMap_append]
  cases h : line.text? e n <;> simp [texts, h]

theorem entities_concat (h : line.told? = some (e, n)) :
    entities (acc ++ [line]) =
      if e ∈ acc.entities then acc.entities else acc.entities ++ [e] := by
  rw [entities, told_concat, h, List.map_append]
  exact eraseDups_concat _ e

theorem names_concat (h : line.told? = some (e, n)) :
    names (acc ++ [line]) e =
      if n ∈ acc.names e then acc.names e else acc.names e ++ [n] := by
  have hself : [(e, n)].filter (·.1 = e) = [(e, n)] := by simp
  rw [names, told_concat, h, List.filter_append, Option.toList_some, hself, List.map_append]
  exact eraseDups_concat _ n

theorem names_concat_of_ne {e' : Text} (h : line.told? = some (e, n)) (he : e' ≠ e) :
    names (acc ++ [line]) e' = acc.names e' := by
  have hother : [(e, n)].filter (·.1 = e') = [] := by simp [he.symm]
  rw [names, told_concat, h, List.filter_append, Option.toList_some, hother, List.append_nil]
  rfl

/-- A line that tells of another name changes nothing that is told under this one. -/
theorem value?_concat_of_ne (h : line.told? ≠ some (e, n)) :
    value? (acc ++ [line]) e n = acc.value? e n := by
  have hopen : .opening e n ∈ acc ++ [line] ↔ .opening e n ∈ acc := by
    rw [List.mem_append, List.mem_singleton, or_iff_left]
    rintro rfl
    exact h rfl
  have hitem : line.item? e n = none := by
    cases line with
    | item e' l' i => exact if_neg fun hsame => h (congrArg some hsame)
    | _ => rfl
  have htext : line.text? e n = none := by
    cases line with
    | text e' n' v => exact if_neg fun hsame => h (congrArg some hsame)
    | _ => rfl
  rw [value?, value?, items_concat, texts_concat, hitem, htext]
  simp only [hopen, Option.toList_none, List.append_nil]

/-! ## Items and openings -/

/-- **Every list is opened** that is open or has items. -/
structure Opened (acc : Account) (p : Position) : Prop where
  items : ∀ e l i, .item e l i ∈ acc → .opening e l ∈ acc
  list : ∀ e l, p = ⟨some e, some l⟩ → .opening e l ∈ acc

theorem opened_nil : Opened [] .start where
  items := fun _ _ _ h => by cases h
  list := fun _ _ h => by cases h

/-- **One line** gives items of the open list only, and a list that it leaves open was opened. -/
theorem Opened.concat {names : EntityNames} {p : Position} {raw : Text} (h : acc.Opened p)
    (hline : line.Reads names p raw) : Opened (acc ++ [line]) (p.after line) := by
  have hold : ∀ {m : Line}, m ∈ acc → m ∈ acc ++ [line] := List.mem_append_left _
  refine ⟨fun e l i hi => ?_, fun e l hp => ?_⟩
  · rcases List.mem_append.mp hi with hi | hi
    · exact hold (h.items e l i hi)
    · -- given by this line, to the list that is open
      cases List.mem_singleton.mp hi
      exact hold (h.list e l hline.1)
  · cases line with
    | opening e' l' =>
      cases hp
      exact List.mem_append_right acc List.mem_cons_self
    | blank => cases congrArg Position.list hp
    | header e' => cases congrArg Position.list hp
    | dropped => exact hold (h.list e l hp)
    | item e' l' i => exact hold (h.list e l hp)
    | text e' n v => exact hold (h.list e l hp)

/-! ## What a line adds -/

/-- **The account is kept** in a state: the entities and the names stand in the order in which they
are told of, and what is told under a name is found under it. -/
structure Kept (acc : Account) (s : WorldState) : Prop where
  entities : s.keys = acc.entities
  names : ∀ e, (s.get e).attributes.map (·.key) = acc.names e
  values : ∀ e n, (s.get e).find? n = (acc.value? e n.lower).map fun v => ⟨n.lower, v⟩

theorem kept_nil : Kept [] .empty where
  entities := rfl
  names := fun _ => rfl
  values := fun _ _ => rfl

theorem value?_eq_list (h : .opening e l ∈ acc) :
    acc.value? e l = some (.list (acc.items e l)) :=
  if_pos h

theorem value?_opening (acc : Account) (e l : Text) :
    value? (acc ++ [.opening e l]) e l = some (.list (acc.items e l)) := by
  have hitem : (Line.opening e l).item? e l = none := rfl
  rw [value?_eq_list (List.mem_append_right acc List.mem_cons_self), items_concat, hitem,
    Option.toList_none, List.append_nil]

theorem value?_item (h : .opening e l ∈ acc) (i : Item) :
    value? (acc ++ [.item e l i]) e l = some (.list (acc.items e l ++ [i])) := by
  have hitem : (Line.item e l i).item? e l = some i := if_pos rfl
  rw [value?_eq_list (List.mem_append_left _ h), items_concat, hitem, Option.toList_some]

theorem value?_text (acc : Account) (e n v : Text) :
    value? (acc ++ [.text e n v]) e n =
      if .opening e n ∈ acc then acc.value? e n else some (.text v) := by
  have htext : (Line.text e n v).text? e n = some v := if_pos rfl
  have hitem : (Line.text e n v).item? e n = none := rfl
  rw [value?, value?, items_concat, texts_concat, hitem, htext, Option.toList_none,
    Option.toList_some, List.append_nil, List.getLast?_concat]
  by_cases h : .opening e n ∈ acc
  · simp [h]
  · simp [h]

namespace Kept

variable {s : WorldState} {f : Entity → Entity}

/-- A line that tells of a name changes one entity, and in it what is found under the name. -/
theorem modify (h : acc.Kept s) (htold : line.told? = some (e, n))
    (hnames : (f (s.get e)).attributes.map (·.key) =
      if n ∈ (s.get e).attributes.map (·.key) then (s.get e).attributes.map (·.key)
      else (s.get e).attributes.map (·.key) ++ [n])
    (hfind : ∀ m, (f (s.get e)).find? m =
      if m.lower = n then (value? (acc ++ [line]) e n).map fun v => ⟨n, v⟩
      else (s.get e).find? m) :
    Kept (acc ++ [line]) (s.modify e f) where
  entities := by rw [WorldState.keys_modify, h.entities, entities_concat htold]
  names := by
    intro e'
    rw [WorldState.get_modify]
    by_cases he : e' = e
    · rw [if_pos he, he, hnames, h.names, names_concat htold]
    · rw [if_neg he, h.names, names_concat_of_ne htold he]
  values := by
    intro e' m
    rw [WorldState.get_modify]
    by_cases he : e' = e
    · rw [if_pos he, he, hfind]
      by_cases hm : m.lower = n
      · rw [if_pos hm, hm]
      · have hne : line.told? ≠ some (e, m.lower) := by
          rw [htold]
          rintro ⟨⟩
          exact hm rfl
        rw [if_neg hm, h.values, value?_concat_of_ne hne]
    · have hne : line.told? ≠ some (e', m.lower) := by
        rw [htold]
        rintro ⟨⟩
        exact he rfl
      rw [if_neg he, h.values, value?_concat_of_ne hne]

/-- A line that sets an attribute. -/
theorem set (h : acc.Kept s) (htold : line.told? = some (e, n)) (hn : n.lower = n)
    {v : AttributeValue} (hf : f (s.get e) = (s.get e).set ⟨n, v⟩)
    (hvalue : value? (acc ++ [line]) e n = some v) : Kept (acc ++ [line]) (s.modify e f) := by
  have hkey : (⟨n, v⟩ : Attribute).key = n := hn
  refine h.modify htold ?_ fun m => ?_
  · have hmap := Entity.map_key_setIn ⟨n, v⟩ (s.get e).attributes
    rw [hkey] at hmap
    rw [hf]
    exact hmap
  · rw [hf, Entity.find?_set, hvalue, hkey]
    rfl

/-- A line that changes nothing. -/
theorem unchanged (h : acc.Kept s) (htold : line.told? = some (e, n)) {v : AttributeValue}
    (hf : f (s.get e) = s.get e) (hold : acc.value? e n = some v)
    (hvalue : value? (acc ++ [line]) e n = some v) : Kept (acc ++ [line]) (s.modify e f) := by
  refine h.modify htold ?_ fun m => ?_
  · rw [hf, h.names, if_pos (mem_names_of_value? hold)]
  · rw [hf, hvalue, ← hold]
    split
    · next hm => rw [h.values, hm]
    · rfl

/-- What is found under a name that no line opens a list of is no list. -/
theorem find?_ne_list (h : acc.Kept s) (hopen : .opening e n ∉ acc) (hn : n.lower = n)
    (name : Text) (items : List Item) : (s.get e).find? n ≠ some ⟨name, .list items⟩ := by
  rw [h.values, hn, value?, if_neg hopen, Option.map_map]
  intro hfind
  obtain ⟨t, -, ht⟩ := Option.map_eq_some_iff.mp hfind
  cases ht

/-- What is found under the name of a list. -/
theorem find?_list (h : acc.Kept s) (hopen : .opening e n ∈ acc) (hn : n.lower = n) :
    (s.get e).find? n = some ⟨n, .list (acc.items e n)⟩ := by
  rw [h.values, hn, value?_eq_list hopen]
  rfl

/-- An item comes to the end of the list of its name. -/
theorem append (h : acc.Kept s) (hopen : .opening e n ∈ acc) (hn : n.lower = n) (i : Item) :
    Kept (acc ++ [.item e n i]) (s.modify e (·.append n i)) := by
  refine h.modify rfl ?_ fun m => ?_
  · have hmem : n ∈ acc.names e := mem_names_of_value? (value?_eq_list hopen)
    rw [Entity.append, Entity.map_key_appendIn, h.names, if_pos hmem]
  · rw [Entity.find?_append, hn, value?_item hopen]
    split
    · next hm =>
      have hfind : (s.get e).find? m = (s.get e).find? n := by
        rw [Entity.find?, Entity.find?, hm, hn]
      rw [hfind, h.find?_list hopen hn]
      rfl
    · rfl

/-- A line that tells of nothing. -/
theorem untold (h : acc.Kept s) (htold : line.told? = none) : Kept (acc ++ [line]) s where
  entities := by
    rw [h.entities, Account.entities, Account.entities, told_concat, htold, Option.toList_none,
      List.append_nil]
  names := by
    intro e
    rw [h.names, Account.names, Account.names, told_concat, htold, Option.toList_none,
      List.append_nil]
  values := by
    intro e n
    rw [h.values, value?_concat_of_ne (by rw [htold]; exact (Option.some_ne_none _).symm)]

/-- The names that are told are in small letters. -/
theorem lower_of_mem_names (h : acc.Kept s) (hn : n ∈ acc.names e) : n.lower = n := by
  rw [← h.names] at hn
  obtain ⟨a, -, rfl⟩ := List.mem_map.mp hn
  exact lower_lower a.name

/-- **One line** keeps the account. -/
theorem record {names : EntityNames} {p : Position} {raw : Text} (h : acc.Kept s)
    (hopened : acc.Opened p) (hline : line.Reads names p raw) :
    Kept (acc ++ [line]) (s.record line) := by
  cases line with
  | blank => exact h.untold rfl
  | dropped => exact h.untold rfl
  | header e => exact h.untold rfl
  | opening e l =>
    obtain ⟨-, label, -, -, rfl⟩ := hline
    have hl : label.lower.lower = label.lower := lower_lower label
    have hvalue := value?_opening acc e label.lower
    by_cases hopen : .opening e label.lower ∈ acc
    · -- the list goes on
      refine h.unchanged rfl ?_ (value?_eq_list hopen) hvalue
      rw [Entity.openList, h.find?_list hopen hl]
    · -- it has no items yet, and a text of its name gives way
      have hitems : acc.items e label.lower = [] := by
        refine List.eq_nil_iff_forall_not_mem.mpr fun i hi => ?_
        exact hopen (hopened.items e label.lower i (mem_items_iff.mp hi))
      rw [hitems] at hvalue
      refine h.set rfl hl ?_ hvalue
      rw [Entity.openList]
      split
      · next hfind => exact absurd hfind (h.find?_ne_list hopen hl _ _)
      · rfl
  | item e l i =>
    obtain ⟨hp, -⟩ := hline
    have hopen : .opening e l ∈ acc := hopened.list e l hp
    exact h.append hopen (h.lower_of_mem_names (mem_names_of_value? (value?_eq_list hopen))) i
  | text e n v =>
    obtain ⟨-, -, label, -, rfl⟩ := hline
    have hn : label.lower.lower = label.lower := lower_lower label
    have hvalue := value?_text acc e label.lower v
    by_cases hopen : .opening e label.lower ∈ acc
    · -- the list of the name stays
      rw [if_pos hopen, value?_eq_list hopen] at hvalue
      refine h.unchanged rfl ?_ (value?_eq_list hopen) hvalue
      rw [Entity.putText, h.find?_list hopen hn]
    · rw [if_neg hopen] at hvalue
      refine h.set rfl hn ?_ hvalue
      rw [Entity.putText]
      split
      · next hfind => exact absurd hfind (h.find?_ne_list hopen hn _ _)
      · rfl

/-- **All lines** keep the account. -/
theorem foldl {names : EntityNames} {p : Position} {raws : List Text} {rest : Account}
    (hscan : Scanned names p raws rest) (h : acc.Kept s) (hopened : acc.Opened p) :
    Kept (acc ++ rest) (rest.foldl WorldState.record s) ∧
      ∀ e l i, .item e l i ∈ acc ++ rest → .opening e l ∈ acc ++ rest := by
  induction hscan generalizing acc s with
  | nil p =>
    rw [List.append_nil]
    exact ⟨h, hopened.items⟩
  | cons hline hrest ih =>
    rw [List.append_cons]
    exact ih (h.record hopened hline) (hopened.concat hline)

/-- The attributes of an entity are what is told of it. -/
theorem mem_attributes_iff (h : acc.Kept s) {v : AttributeValue} :
    ⟨n, v⟩ ∈ (s.get e).attributes ↔ acc.value? e n = some v := by
  have hdistinct : (s.get e).Distinct := by
    rw [Entity.Distinct, h.names]
    exact nodup_eraseDups _
  constructor
  · intro ha
    have hfind := Entity.find?_eq_some_of_mem hdistinct ha
    rw [h.values] at hfind
    obtain ⟨w, hw, heq⟩ := Option.map_eq_some_iff.mp hfind
    obtain ⟨hname, rfl⟩ := Attribute.mk.inj heq
    rwa [hname] at hw
  · intro hv
    have hn : n.lower = n := h.lower_of_mem_names (mem_names_of_value? hv)
    have hfind : (s.get e).find? n = some ⟨n, v⟩ := by rw [h.values, hn, hv]; rfl
    exact List.mem_of_find?_eq_some hfind

end Kept

end Account

/-! ## Recovered states -/

/-- **A state tells what an account tells**, and nothing else. -/
structure WorldState.Tells (s : WorldState) (acc : Account) : Prop where
  /-- The entities are those that lines tell of, in the order in which they come first. -/
  entities : s.keys = acc.entities
  /-- So are the attributes of an entity. -/
  names : ∀ e, (s.get e).attributes.map (·.name) = acc.names e
  /-- There is a list where a line opens one, with the items of all its openings. -/
  list : ∀ e l items, ⟨l, .list items⟩ ∈ (s.get e).attributes ↔
    .opening e l ∈ acc ∧ items = acc.items e l
  /-- There is a text where a line gives one and none opens a list, and it is the last one. -/
  text : ∀ e n t, ⟨n, .text t⟩ ∈ (s.get e).attributes ↔
    .opening e n ∉ acc ∧ (acc.texts e n).getLast? = some t
  /-- No item is lost: it has a list. -/
  item : ∀ e l i, .item e l i ∈ acc → .opening e l ∈ acc

theorem Account.Kept.tells {acc : Account} {s : WorldState} (h : acc.Kept s)
    (hitems : ∀ e l i, .item e l i ∈ acc → .opening e l ∈ acc) : s.Tells acc where
  entities := h.entities
  names := by
    intro e
    rw [← h.names]
    refine List.map_congr_left fun a ha => ?_
    have hname : a.name ∈ acc.names e := Account.mem_names_of_value? (h.mem_attributes_iff.mp ha)
    exact (h.lower_of_mem_names hname).symm
  list := by
    intro e l items
    rw [h.mem_attributes_iff, Account.value?]
    split
    · next hopen => simp [hopen, eq_comm]
    · next hopen => simp [hopen]
  text := by
    intro e n t
    rw [h.mem_attributes_iff, Account.value?]
    split
    · next hopen => simp [hopen]
    · next hopen => simp [hopen]
  item := hitems

namespace WorldState

/-- **Every line is accounted for.** An answer is read line by line for what each line says where it
stands, and what is recovered is what the lines tell, in their order, and nothing else. -/
theorem accounts_recover (labels : Labels) (t : Text) :
    Scanned (.ofLabels labels) .start t.lines (Position.start.scan (.ofLabels labels) t.lines) ∧
      (recover labels t).Tells (Position.start.scan (.ofLabels labels) t.lines) := by
  have hscan := Position.scanned_scan (.ofLabels labels) .start t.lines
  obtain ⟨hkept, hitems⟩ := Account.Kept.foldl hscan Account.kept_nil Account.opened_nil
  refine ⟨hscan, ?_⟩
  rw [recover, readLines_eq_record]
  exact hkept.tells hitems

-- A list of a name that a text has already, and a text of the name behind it.
example :
    let acc := Position.start.scan (.ofLabels [("character", "Aria")])
      ["Aria:", "Hair: red", "mood: shy", "Hair:", "  tip: blue", "", "hair: green"]
    acc.entities = ["character"] ∧ acc.names "character" = ["hair", "mood"] ∧
      acc.texts "character" "hair" = ["red", "green"] ∧
      acc.value? "character" "hair" = some (.list [⟨"tip", "blue"⟩]) := by
  decide

end WorldState

end Roleplay
