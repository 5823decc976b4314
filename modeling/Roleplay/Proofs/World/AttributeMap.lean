import Roleplay.Proofs.Entries
import Roleplay.Proofs.Text.Lower
import Roleplay.Proofs.World.Entities

/-!
# Attributes as an ordered map

The attributes of an entity are a plain list. What makes a map of it is that no name stands in it
twice, whatever the case of its letters, and nothing but the operations sees to that. An entity that
is made of a list of attributes has distinct names, and setting, removing and appending keep them
distinct in any order. In such an entity a name has one place at most: an attribute that is set goes
to the place of its name or to the end, a removal leaves one place out, and an item that is appended
changes one attribute in its place.

An operation looks at one name only. So what stands under a name after a run is told by the
operations on that name, whatever was done to others in between.

## Main definitions

* `Change`, `Entity.change`: an operation on an entity
* `Change.on`: what an operation makes of the attribute of a name
* `Entity.IsMap`: the laws of an ordered map

## Main results

* `Entity.find?_set`, `Entity.find?_remove`, `Entity.find?_append`: what is found after an operation
* `Entity.map_some_ofAttributes`: the attributes of an entity that is made of a list
* `Entity.isMap_of_distinct`: entities with distinct names are maps
* `Entity.ordered_map`: after any run an entity is a map
-/

namespace Roleplay

/-- **An operation** on an entity: an attribute is set or removed, or an item appended to a list. -/
inductive Change
  | set (a : Attribute)
  | remove (name : Text)
  | append (name : Text) (i : Item)

/-- **What an operation makes** of the attribute of a name, when there is one. -/
def Change.on (name : Text) (found : Option Attribute) : Change → Option Attribute
  | .set a => if name.lower = a.key then some a else found
  | .remove n => if name.lower = n.lower then none else found
  | .append n i => if name.lower = n.lower then found.map (·.appended i) else found

namespace Entity

variable {e : Entity} {a b : Attribute} {name : Text} {xs ys as : List Attribute}

/-- **An entity after an operation.** -/
def change (e : Entity) : Change → Entity
  | .set a => e.set a
  | .remove name => (e.remove name).1
  | .append name i => e.append name i

/-! ## What is found -/

theorem find?_cons (a : Attribute) (as : List Attribute) (name : Text) :
    find? ⟨a :: as⟩ name = if a.key = name.lower then some a else find? ⟨as⟩ name := by
  rw [find?, List.find?_cons]
  by_cases h : a.key = name.lower
  · simp [h]
  · simp [h, find?]

/-- **After an attribute was set** it is found under its name, in any case. -/
theorem find?_set (e : Entity) (a : Attribute) (name : Text) :
    (e.set a).find? name = if name.lower = a.key then some a else e.find? name := by
  obtain ⟨as⟩ := e
  show find? ⟨setIn a as⟩ name = _
  induction as with
  | nil =>
    rw [setIn, find?_cons]
    simp only [eq_comm]
  | cons b bs ih =>
    rw [setIn]
    by_cases hb : b.key = a.key
    · -- `a` stands in the place of `b`, which nothing is found behind
      rw [if_pos hb, find?_cons, find?_cons, hb]
      by_cases hname : name.lower = a.key
      · rw [if_pos hname, if_pos hname.symm]
      · rw [if_neg hname, if_neg (Ne.symm hname), if_neg (Ne.symm hname)]
    · rw [if_neg hb, find?_cons, find?_cons, ih]
      by_cases hname : b.key = name.lower
      · rw [if_pos hname, if_pos hname, if_neg (hname ▸ hb)]
      · rw [if_neg hname, if_neg hname]

/-- **After a name was removed** nothing is found under it. -/
theorem find?_remove (e : Entity) (name other : Text) :
    (e.remove name).1.find? other = if other.lower = name.lower then none else e.find? other := by
  show (e.attributes.filter fun a => a.key ≠ name.lower).find? (fun a => a.key = other.lower) = _
  rw [List.find?_filter]
  split
  · next h =>
    refine List.find?_eq_none.mpr fun a _ => ?_
    rw [h]
    simp
  · next h =>
    -- under another name the same is found as before
    refine congrArg (List.find? · e.attributes) (funext fun a => ?_)
    by_cases ha : a.key = other.lower
    · simp [ha, h]
    · simp [ha]

/-- **After an item was appended** the list of the name has it at its end. -/
theorem find?_append (e : Entity) (name : Text) (i : Item) (other : Text) :
    (e.append name i).find? other =
      if other.lower = name.lower then (e.find? other).map (·.appended i) else e.find? other := by
  obtain ⟨as⟩ := e
  show find? ⟨appendIn name.lower i as⟩ other = _
  induction as with
  | nil =>
    rw [appendIn]
    split <;> rfl
  | cons a as ih =>
    rw [appendIn_cons]
    by_cases ha : a.key = name.lower
    · rw [if_pos ha, find?_cons, find?_cons, key_appended, ha]
      by_cases hother : other.lower = name.lower
      · rw [if_pos hother, if_pos hother.symm, if_pos hother.symm, Option.map_some]
      · rw [if_neg hother, if_neg (Ne.symm hother), if_neg (Ne.symm hother)]
    · rw [if_neg ha, find?_cons, find?_cons, ih]
      by_cases hother : a.key = other.lower
      · rw [if_pos hother, if_pos hother, if_neg (hother ▸ ha)]
      · rw [if_neg hother, if_neg hother]

/-- **An operation looks at one name.** -/
theorem find?_change (e : Entity) (c : Change) (name : Text) :
    (e.change c).find? name = c.on name (e.find? name) := by
  cases c with
  | set a => exact find?_set e a name
  | remove n => exact find?_remove e n name
  | append n i => exact find?_append e n i name

/-- **What is found after a run** is told by the operations on the name. -/
theorem find?_foldl_change (e : Entity) (cs : List Change) (name : Text) :
    (cs.foldl change e).find? name = cs.foldl (Change.on name) (e.find? name) := by
  induction cs generalizing e with
  | nil => rfl
  | cons c cs ih => rw [List.foldl_cons, List.foldl_cons, ih, find?_change]

/-! ## Distinct names -/

theorem Distinct.change (h : e.Distinct) (c : Change) : (e.change c).Distinct := by
  cases c with
  | set a => exact h.set a
  | remove name => exact h.remove name
  | append name i => exact h.append name i

/-- **No run** gives a name twice. -/
theorem Distinct.foldl_change (h : e.Distinct) (cs : List Change) :
    (cs.foldl Entity.change e).Distinct := by
  induction cs generalizing e with
  | nil => exact h
  | cons c cs ih => exact ih (h.change c)

/-- Of attributes with distinct names each is the one of its name. -/
theorem map_some_eq (h : (as.map (·.key)).Nodup) :
    as.map some = (as.map (·.key)).map fun key => as.find? (·.key = key) := by
  rw [List.map_map]
  refine List.map_congr_left fun a ha => ?_
  have hone : ∀ b ∈ as, b.key = a.key → b = a := fun b hb hkey =>
    List.inj_on_of_nodup_map h hb ha hkey
  -- what is found has the name of `a`, and `a` itself would be found
  cases hfind : as.find? (·.key = a.key) with
  | none => exact absurd (List.find?_eq_none.mp hfind a ha) (by simp)
  | some b =>
    have hb := hone b (List.mem_of_find?_eq_some hfind) (by simpa using List.find?_some hfind)
    rw [Function.comp_apply, hfind, hb]

theorem ofAttributes_concat (as : List Attribute) (a : Attribute) :
    ofAttributes (as ++ [a]) = (ofAttributes as).set a := by
  rw [ofAttributes, List.foldl_append]
  rfl

/-- The names stand in the order in which they came first. -/
theorem map_key_ofAttributes (as : List Attribute) :
    (ofAttributes as).attributes.map (·.key) = (as.map (·.key)).eraseDups := by
  induction as using List.reverseRecOn with
  | nil => rfl
  | append_singleton as a ih =>
    rw [ofAttributes_concat, List.map_append, List.map_singleton, eraseDups_concat, ← ih]
    exact map_key_setIn a _

/-- Of one name the last attribute is kept. -/
theorem find?_ofAttributes (as : List Attribute) (name : Text) :
    (ofAttributes as).find? name = as.reverse.find? (·.key = name.lower) := by
  induction as using List.reverseRecOn with
  | nil => rfl
  | append_singleton as a ih =>
    rw [ofAttributes_concat, find?_set, ih, List.reverse_concat, List.find?_cons]
    by_cases h : name.lower = a.key
    · simp [h]
    · simp [h, Ne.symm h]

/-- **The attributes of an entity that is made of a list**: of each name the last one, at the place
of the first. -/
theorem map_some_ofAttributes (as : List Attribute) :
    (ofAttributes as).attributes.map some =
      (as.map (·.key)).eraseDups.map fun key => as.reverse.find? (·.key = key) := by
  rw [map_some_eq (distinct_ofAttributes as), map_key_ofAttributes]
  refine List.map_congr_left fun key hkey => ?_
  obtain ⟨a, -, rfl⟩ := List.mem_map.mp (List.mem_eraseDups.mp hkey)
  -- a name in small letters is its own name in small letters
  have hlower : a.key.lower = a.key := Text.lower_lower a.name
  have hfind := find?_ofAttributes as a.key
  rw [find?, hlower] at hfind
  exact hfind

/-! ## Places -/

/-- In front of the place of a name, and behind it, the name is not there. -/
theorem Distinct.notMem_sides (h : e.Distinct) (hsplit : e.attributes = xs ++ b :: ys) :
    b.key ∉ xs.map (·.key) ∧ b.key ∉ ys.map (·.key) := by
  rw [Distinct, hsplit, List.map_append, List.map_cons] at h
  obtain ⟨-, htail, hsides⟩ := List.nodup_append.mp h
  exact ⟨fun hx => hsides _ hx _ List.mem_cons_self rfl, (List.nodup_cons.mp htail).1⟩

theorem filter_key_eq_self (h : name.lower ∉ as.map (·.key)) :
    as.filter (·.key ≠ name.lower) = as := by
  refine List.filter_eq_self.mpr fun a ha => ?_
  rw [decide_eq_true_eq]
  intro hkey
  exact h (hkey ▸ List.mem_map_of_mem ha)

/-- **A removal** leaves out the place of the name. -/
theorem Distinct.remove_split (h : e.Distinct) (hsplit : e.attributes = xs ++ b :: ys)
    (hb : b.key = name.lower) : (e.remove name).1.attributes = xs ++ ys := by
  obtain ⟨hxs, hys⟩ := h.notMem_sides hsplit
  rw [hb] at hxs hys
  show e.attributes.filter (·.key ≠ name.lower) = xs ++ ys
  rw [hsplit, List.filter_append, List.filter_cons_of_neg (by simp [hb]), filter_key_eq_self hxs,
    filter_key_eq_self hys]

/-- A removal tells whether the name was there. -/
theorem remove_snd (e : Entity) (name : Text) : (e.remove name).2 = (e.find? name).isSome := by
  show decide ((e.attributes.filter fun a => a.key ≠ name.lower).length ≠ e.attributes.length) = _
  rw [Bool.eq_iff_iff, decide_eq_true_eq, find?, List.find?_isSome, Ne,
    List.length_filter_eq_length_iff]
  simp

/-- Nothing is appended without a list of the name. -/
theorem append_eq_self {i : Item} (h : ∀ n items, e.find? name ≠ some ⟨n, .list items⟩) :
    e.append name i = e := by
  obtain ⟨as⟩ := e
  refine congrArg mk ?_
  induction as with
  | nil => rfl
  | cons a as ih =>
    rw [appendIn_cons]
    rw [find?_cons] at h
    by_cases ha : a.key = name.lower
    · -- the attribute of the name is a text
      rw [if_pos ha] at h ⊢
      obtain ⟨n, t | items⟩ := a
      · rfl
      · exact absurd rfl (h n items)
    · rw [if_neg ha] at h ⊢
      rw [ih h]

/-! ## The laws of an ordered map -/

/-- **The laws of an ordered map**, whose keys are names in any case of letters. -/
structure IsMap (e : Entity) : Prop where
  /-- No name is there twice. -/
  distinct : e.Distinct
  /-- An attribute that is set is found under its name, and nothing else under another. -/
  find?_set : ∀ a name, (e.set a).find? name = if name.lower = a.key then some a else e.find? name
  /-- It goes to the place of its name. -/
  set_place : ∀ a b xs ys, e.attributes = xs ++ b :: ys → b.key = a.key →
    (e.set a).attributes = xs ++ a :: ys
  /-- A new name goes to the end. -/
  set_new : ∀ a, e.find? a.name = none → (e.set a).attributes = e.attributes ++ [a]
  /-- A removal tells whether the name was there. -/
  remove_found : ∀ name, (e.remove name).2 = (e.find? name).isSome
  /-- Nothing is found under a name that was removed, and what was there under another. -/
  find?_remove : ∀ name other, (e.remove name).1.find? other =
    if other.lower = name.lower then none else e.find? other
  /-- Its place is left out. -/
  remove_place : ∀ name b xs ys, e.attributes = xs ++ b :: ys → b.key = name.lower →
    (e.remove name).1.attributes = xs ++ ys
  /-- Nothing is removed when the name is not there. -/
  remove_missing : ∀ name, e.find? name = none → (e.remove name).1 = e
  /-- An item comes to the end of the list of the name, in its place. -/
  append_place : ∀ name i n items xs ys, e.attributes = xs ++ ⟨n, .list items⟩ :: ys →
    n.lower = name.lower →
      (e.append name i).attributes = xs ++ ⟨n, .list (items ++ [i])⟩ :: ys ∧
        e.list name = items ∧ (e.append name i).list name = items ++ [i]
  /-- Without a list of the name nothing is appended. -/
  append_missing : ∀ name i, (∀ n items, e.find? name ≠ some ⟨n, .list items⟩) →
    e.append name i = e

/-- The attribute at the place of a name is the one that is found. -/
theorem Distinct.find?_of_split (h : e.Distinct) (hsplit : e.attributes = xs ++ b :: ys)
    (hb : b.key = name.lower) : e.find? name = some b := by
  have hfind := find?_eq_some_of_mem h (a := b) (by simp [hsplit])
  rwa [find?, show b.name.lower = name.lower from hb] at hfind

/-- **Entities with distinct names are maps.** -/
theorem isMap_of_distinct (h : e.Distinct) : e.IsMap where
  distinct := h
  find?_set := e.find?_set
  set_place := by
    intro a b xs ys hsplit hb
    show setIn a e.attributes = _
    rw [hsplit]
    exact setIn_append_cons (hb ▸ (h.notMem_sides hsplit).1) hb
  set_new := fun a hnone => setIn_of_notMem (find?_eq_none_iff.mp hnone)
  remove_found := e.remove_snd
  find?_remove := e.find?_remove
  remove_place := fun name b xs ys => h.remove_split
  remove_missing := fun name hnone =>
    congrArg mk (filter_key_eq_self (find?_eq_none_iff.mp hnone))
  append_place := by
    intro name i n items xs ys hsplit hn
    have hfind : e.find? name = some ⟨n, .list items⟩ := h.find?_of_split hsplit hn
    have hkey : (⟨n, .list items⟩ : Attribute).key = name.lower := hn
    refine ⟨?_, ?_, ?_⟩
    · show appendIn name.lower i e.attributes = _
      rw [hsplit]
      exact appendIn_append_cons (hkey ▸ (h.notMem_sides hsplit).1) hkey i
    · rw [list, hfind]
    · rw [list, find?_append, if_pos rfl, hfind]
      rfl
  append_missing := fun name i => append_eq_self

/-- **An ordered map, after any run.** An entity that is made of a list has of each name the last
attribute, at the place of the first. After any operations it is a map, and what it has under a name
is told by the operations on that name. -/
theorem ordered_map (as : List Attribute) (cs : List Change) :
    (ofAttributes as).attributes.map some =
        (as.map (·.key)).eraseDups.map (fun key => as.reverse.find? (·.key = key)) ∧
      (cs.foldl change (ofAttributes as)).IsMap ∧
      ∀ name, (cs.foldl change (ofAttributes as)).find? name =
        cs.foldl (Change.on name) (as.reverse.find? (·.key = name.lower)) := by
  refine ⟨map_some_ofAttributes as, ?_, fun name => ?_⟩
  · exact isMap_of_distinct ((distinct_ofAttributes as).foldl_change cs)
  · rw [find?_foldl_change, find?_ofAttributes]

-- The name that comes again is the same name in another case.
example :
    ofAttributes [⟨"Mood", .text "shy"⟩, ⟨"hat", .text "red"⟩, ⟨"mood", .text "calm"⟩] =
      ⟨[⟨"mood", .text "calm"⟩, ⟨"hat", .text "red"⟩]⟩ := by
  decide

end Entity

end Roleplay
