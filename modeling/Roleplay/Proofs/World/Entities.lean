import Mathlib.Data.List.Nodup
import Roleplay.World.Basic

/-!
# Entities and attributes as maps

The attributes of an entity and the entities of a state are lists that are used as maps. Every
operation changes at most one place, or adds one at the end, so no operation gives a name or a key
twice.

## Main definitions

* `Attribute.appended`: a list with an item more
* `Entity.Distinct`, `WorldState.Distinct`: no name and no key occurs twice

## Main results

* `Entity.map_key_setIn`, `Entity.map_key_appendIn`, `WorldState.map_fst_modifyIn`: the names and
  the keys after a change
* `Entity.mem_setIn`, `Entity.mem_appendIn`, `WorldState.mem_modifyIn`: what there is after it
* `Entity.setIn_append_cons`, `Entity.appendIn_append_cons`, `WorldState.get_modify`: where it is
* `Entity.Distinct.set`, `WorldState.Distinct.modify`: distinctness is kept
-/

namespace Roleplay

/-- The attribute with an item more, when it is a list. -/
def Attribute.appended (a : Attribute) (i : Item) : Attribute :=
  match a.value with
  | .list items => ⟨a.name, .list (items ++ [i])⟩
  | .text _ => a

namespace Entity

/-- **Distinct names**, whatever the case of their letters. -/
def Distinct (e : Entity) : Prop :=
  (e.attributes.map (·.key)).Nodup

instance (e : Entity) : Decidable e.Distinct :=
  inferInstanceAs (Decidable (List.Nodup _))

/-! ## Setting an attribute -/

theorem map_key_setIn (a : Attribute) (as : List Attribute) :
    (setIn a as).map (·.key) =
      if a.key ∈ as.map (·.key) then as.map (·.key) else as.map (·.key) ++ [a.key] := by
  induction as with
  | nil => simp [setIn]
  | cons b bs ih =>
    rw [setIn]
    by_cases hb : b.key = a.key
    · simp [hb]
    · have hb' : a.key ≠ b.key := Ne.symm hb
      rw [if_neg hb, List.map_cons, ih, List.map_cons]
      by_cases ha : a.key ∈ bs.map (·.key)
      · rw [if_pos ha, if_pos (List.mem_cons_of_mem _ ha)]
      · rw [if_neg ha, if_neg (by simp only [List.mem_cons, not_or]; exact ⟨hb', ha⟩),
          List.cons_append]

theorem mem_setIn {a b : Attribute} {as : List Attribute} (h : b ∈ setIn a as) :
    b = a ∨ b ∈ as := by
  induction as with
  | nil => exact Or.inl (List.mem_singleton.mp h)
  | cons c cs ih =>
    rw [setIn] at h
    split at h
    · -- `a` stands in the place of `c`
      rcases List.mem_cons.mp h with h | h
      · exact Or.inl h
      · exact Or.inr (List.mem_cons_of_mem c h)
    · rcases List.mem_cons.mp h with rfl | h
      · exact Or.inr List.mem_cons_self
      · exact (ih h).imp_right (List.mem_cons_of_mem c)

theorem setIn_of_notMem {a : Attribute} {as : List Attribute} (h : a.key ∉ as.map (·.key)) :
    setIn a as = as ++ [a] := by
  induction as with
  | nil => rfl
  | cons b bs ih =>
    simp only [List.map_cons, List.mem_cons, not_or] at h
    rw [setIn, if_neg (Ne.symm h.1), ih h.2, List.cons_append]

/-- An attribute that is set goes to the place of its name. -/
theorem setIn_append_cons {a b : Attribute} {xs ys : List Attribute}
    (hxs : a.key ∉ xs.map (·.key)) (hb : b.key = a.key) :
    setIn a (xs ++ b :: ys) = xs ++ a :: ys := by
  induction xs with
  | nil => rw [List.nil_append, setIn, if_pos hb, List.nil_append]
  | cons x xs ih =>
    simp only [List.map_cons, List.mem_cons, not_or] at hxs
    rw [List.cons_append, setIn, if_neg (Ne.symm hxs.1), ih hxs.2, List.cons_append]

theorem setIn_ne_nil (a : Attribute) (as : List Attribute) : setIn a as ≠ [] := by
  cases as with
  | nil => exact List.cons_ne_nil _ _
  | cons b bs =>
    rw [setIn]
    split <;> exact List.cons_ne_nil _ _

/-- **Setting an attribute** gives no name twice. -/
theorem Distinct.set {e : Entity} (h : e.Distinct) (a : Attribute) : (e.set a).Distinct := by
  rw [Distinct, Entity.set, map_key_setIn]
  split
  · exact h
  · next ha =>
    rw [← List.concat_eq_append]
    exact List.Nodup.concat ha h

theorem distinct_empty : Entity.empty.Distinct :=
  List.nodup_nil

theorem distinct_ofAttributes (as : List Attribute) : (ofAttributes as).Distinct := by
  have hfold : ∀ e : Entity, e.Distinct → (as.foldl Entity.set e).Distinct := by
    induction as with
    | nil => exact fun e h => h
    | cons a as ih => exact fun e h => ih _ (h.set a)
  exact hfold empty distinct_empty

/-! ## Appending an item -/

theorem key_appended (a : Attribute) (i : Item) : (a.appended i).key = a.key := by
  unfold Attribute.appended
  split <;> rfl

theorem appendIn_cons (key : Text) (i : Item) (a : Attribute) (as : List Attribute) :
    appendIn key i (a :: as) =
      if a.key = key then a.appended i :: as else a :: appendIn key i as := by
  obtain ⟨n, t | items⟩ := a <;> rfl

theorem map_key_appendIn (key : Text) (i : Item) (as : List Attribute) :
    (appendIn key i as).map (·.key) = as.map (·.key) := by
  induction as with
  | nil => rfl
  | cons a as ih =>
    rw [appendIn_cons]
    split
    · rw [List.map_cons, key_appended, List.map_cons]
    · rw [List.map_cons, ih, List.map_cons]

theorem Distinct.append {e : Entity} (h : e.Distinct) (name : Text) (i : Item) :
    (e.append name i).Distinct := by
  rw [Distinct, Entity.append, map_key_appendIn]
  exact h

/-- What there is after an item was appended: what there was, and a list with the item. -/
theorem mem_appendIn {key : Text} {i : Item} {b : Attribute} {as : List Attribute}
    (h : b ∈ appendIn key i as) :
    b ∈ as ∨ ∃ a ∈ as, ∃ items, a.value = .list items ∧ b = ⟨a.name, .list (items ++ [i])⟩ := by
  induction as with
  | nil => cases h
  | cons a as ih =>
    rw [appendIn] at h
    split at h
    · split at h
      · -- a list, which has the item at its end now
        next items hv =>
        rcases List.mem_cons.mp h with rfl | h
        · exact Or.inr ⟨a, List.mem_cons_self, items, hv, rfl⟩
        · exact Or.inl (List.mem_cons_of_mem a h)
      · exact Or.inl h
    · rcases List.mem_cons.mp h with rfl | h
      · exact Or.inl List.mem_cons_self
      · rcases ih h with h | ⟨c, hc, items, hv, rfl⟩
        · exact Or.inl (List.mem_cons_of_mem a h)
        · exact Or.inr ⟨c, List.mem_cons_of_mem a hc, items, hv, rfl⟩

/-- An item changes the list of its name in its place. -/
theorem appendIn_append_cons {key : Text} {b : Attribute} {xs ys : List Attribute}
    (hxs : key ∉ xs.map (·.key)) (hb : b.key = key) (i : Item) :
    appendIn key i (xs ++ b :: ys) = xs ++ b.appended i :: ys := by
  induction xs with
  | nil => rw [List.nil_append, appendIn_cons, if_pos hb, List.nil_append]
  | cons x xs ih =>
    simp only [List.map_cons, List.mem_cons, not_or] at hxs
    rw [List.cons_append, appendIn_cons, if_neg (Ne.symm hxs.1), ih hxs.2, List.cons_append]

/-! ## Removing an attribute -/

theorem Distinct.remove {e : Entity} (h : e.Distinct) (name : Text) : (e.remove name).1.Distinct :=
  List.Nodup.sublist (List.filter_sublist.map _) h

/-! ## Looking up -/

theorem find?_eq_none_iff {e : Entity} {name : Text} :
    e.find? name = none ↔ name.lower ∉ e.attributes.map (·.key) := by
  simp [find?, List.find?_eq_none]

/-- An attribute of an entity with distinct names is the one of its name. -/
theorem find?_eq_some_of_mem {e : Entity} (h : e.Distinct) {a : Attribute}
    (ha : a ∈ e.attributes) : e.find? a.name = some a := by
  obtain ⟨as⟩ := e
  induction as with
  | nil => cases ha
  | cons b as ih =>
    obtain ⟨hb, has⟩ := List.nodup_cons.mp h
    rcases List.mem_cons.mp ha with rfl | ha
    · exact List.find?_cons_of_pos (decide_eq_true rfl)
    · have hne : b.key ≠ a.name.lower := by
        intro hkey
        exact hb (List.mem_map.mpr ⟨a, ha, hkey.symm⟩)
      rw [find?, List.find?_cons_of_neg (by simpa using hne)]
      exact ih has ha

theorem ne_nil_of_find?_eq_some {e : Entity} {name : Text} {a : Attribute}
    (h : e.find? name = some a) : e.attributes ≠ [] :=
  List.ne_nil_of_mem (List.mem_of_find?_eq_some h)

end Entity

namespace WorldState

/-- **Distinct keys**, and distinct names below each. -/
structure Distinct (s : WorldState) : Prop where
  keys : s.keys.Nodup
  entities : ∀ p ∈ s.entities, p.2.Distinct

instance (s : WorldState) : Decidable s.Distinct :=
  decidable_of_iff (s.keys.Nodup ∧ ∀ p ∈ s.entities, p.2.Distinct)
    ⟨fun ⟨h₁, h₂⟩ => ⟨h₁, h₂⟩, fun h => ⟨h.keys, h.entities⟩⟩

theorem map_fst_modifyIn (key : Text) (f : Entity → Entity) (es : List (Text × Entity)) :
    (modifyIn key f es).map (·.1) =
      if key ∈ es.map (·.1) then es.map (·.1) else es.map (·.1) ++ [key] := by
  induction es with
  | nil => simp [modifyIn]
  | cons p es ih =>
    obtain ⟨k, e⟩ := p
    rw [modifyIn]
    by_cases hk : k = key
    · simp [hk]
    · have hk' : key ≠ k := Ne.symm hk
      rw [if_neg hk, List.map_cons, ih, List.map_cons]
      by_cases hes : key ∈ es.map (·.1)
      · rw [if_pos hes, if_pos (List.mem_cons_of_mem _ hes)]
      · rw [if_neg hes, if_neg (by simp only [List.mem_cons, not_or]; exact ⟨hk', hes⟩),
          List.cons_append]

/-- What there is after an entity was changed: what there was, and the changed entity. -/
theorem mem_modifyIn {key : Text} {f : Entity → Entity} {es : List (Text × Entity)}
    {p : Text × Entity} (h : p ∈ modifyIn key f es) :
    p ∈ es ∨ p = (key, f ((es.lookup key).getD .empty)) := by
  induction es with
  | nil => exact Or.inr (List.mem_singleton.mp h)
  | cons q es ih =>
    obtain ⟨k, e⟩ := q
    rw [modifyIn] at h
    by_cases hk : k = key
    · subst hk
      rw [if_pos rfl] at h
      rcases List.mem_cons.mp h with h | h
      · exact Or.inr (by rw [h, List.lookup_cons_self]; rfl)
      · exact Or.inl (List.mem_cons_of_mem _ h)
    · rw [if_neg hk] at h
      have hlookup : List.lookup key ((k, e) :: es) = es.lookup key := by
        have : (key == k) = false := beq_eq_false_iff_ne.mpr (Ne.symm hk)
        rw [List.lookup_cons, this]
      rw [hlookup]
      rcases List.mem_cons.mp h with h | h
      · exact Or.inl (h ▸ List.mem_cons_self)
      · exact (ih h).imp_left (List.mem_cons_of_mem _)

theorem modifyIn_of_notMem {key : Text} {es : List (Text × Entity)} (h : key ∉ es.map (·.1))
    (f : Entity → Entity) : modifyIn key f es = es ++ [(key, f .empty)] := by
  induction es with
  | nil => rfl
  | cons p es ih =>
    simp only [List.map_cons, List.mem_cons, not_or] at h
    rw [modifyIn, if_neg (Ne.symm h.1), ih h.2, List.cons_append]

/-- Two changes of an entity are one. -/
theorem modify_modify (s : WorldState) (key : Text) (f g : Entity → Entity) :
    (s.modify key f).modify key g = s.modify key (g ∘ f) := by
  have hin : ∀ es : List (Text × Entity),
      modifyIn key g (modifyIn key f es) = modifyIn key (g ∘ f) es := by
    intro es
    induction es with
    | nil => simp [modifyIn]
    | cons p es ih =>
      obtain ⟨k, e⟩ := p
      by_cases hk : k = key
      · simp [modifyIn, hk]
      · simp [modifyIn, hk, ih]
  exact congrArg mk (hin s.entities)

theorem get_cons (k : Text) (e : Entity) (es : List (Text × Entity)) (key : Text) :
    get ⟨(k, e) :: es⟩ key = if key = k then e else get ⟨es⟩ key := by
  rw [get, find?, List.lookup_cons]
  by_cases h : key = k
  · rw [if_pos h, h, beq_self_eq_true]
    rfl
  · rw [if_neg h, beq_false_of_ne h]
    rfl

/-- **Changing an entity** changes no other. -/
theorem get_modify (s : WorldState) (key : Text) (f : Entity → Entity) (other : Text) :
    (s.modify key f).get other = if other = key then f (s.get key) else s.get other := by
  obtain ⟨es⟩ := s
  show get ⟨modifyIn key f es⟩ other = _
  induction es with
  | nil =>
    rw [modifyIn, get_cons]
    rfl
  | cons p es ih =>
    obtain ⟨k, e⟩ := p
    rw [modifyIn, get_cons, get_cons]
    by_cases hk : k = key
    · -- the entity is changed in its place, and nothing is found behind it
      rw [if_pos hk, get_cons, if_pos hk.symm, hk]
      by_cases h : other = key
      · rw [if_pos h, if_pos h]
      · rw [if_neg h, if_neg h, if_neg h]
    · rw [if_neg hk, get_cons, ih, if_neg (Ne.symm hk)]
      by_cases h : other = k
      · rw [if_pos h, if_pos h, if_neg (h ▸ hk)]
      · rw [if_neg h, if_neg h]

/-- An entity that is there is one of the entities. -/
theorem mem_entities_of_find?_eq_some {s : WorldState} {key : Text} {e : Entity}
    (h : s.find? key = some e) : (key, e) ∈ s.entities := by
  obtain ⟨es, es', he, -⟩ := List.lookup_eq_some_iff.mp h
  rw [he]
  exact List.mem_append_right es List.mem_cons_self

theorem mem_keys_of_find?_eq_some {s : WorldState} {key : Text} {e : Entity}
    (h : s.find? key = some e) : key ∈ s.keys :=
  List.mem_map_of_mem (f := (·.1)) (mem_entities_of_find?_eq_some h)

theorem find?_eq_none_iff {s : WorldState} {key : Text} : s.find? key = none ↔ key ∉ s.keys := by
  rw [find?, List.lookup_eq_none_iff, keys, List.mem_map, not_exists]
  constructor
  · rintro h p ⟨hp, rfl⟩
    simpa using h p hp
  · intro h p hp
    exact bne_iff_ne.mpr fun hk => h p ⟨hp, hk.symm⟩

theorem keys_modify (s : WorldState) (key : Text) (f : Entity → Entity) :
    (s.modify key f).keys = if key ∈ s.keys then s.keys else s.keys ++ [key] :=
  map_fst_modifyIn key f s.entities

theorem mem_keys_modify (s : WorldState) (key : Text) (f : Entity → Entity) :
    key ∈ (s.modify key f).keys := by
  rw [keys_modify]
  split
  · next h => exact h
  · exact List.mem_append_right _ List.mem_cons_self

theorem keys_subset_modify (s : WorldState) (key : Text) (f : Entity → Entity) :
    s.keys ⊆ (s.modify key f).keys := by
  rw [keys_modify]
  split
  · exact List.Subset.refl _
  · exact List.subset_append_left _ _

/-- **Changing an entity** gives no key twice. -/
theorem nodup_keys_modify {s : WorldState} (h : s.keys.Nodup) (key : Text) (f : Entity → Entity) :
    (s.modify key f).keys.Nodup := by
  rw [keys_modify]
  split
  · exact h
  · next hk =>
    rw [← List.concat_eq_append]
    exact List.Nodup.concat hk h

/-- **Changing an entity** so that its names stay distinct keeps a state distinct. -/
theorem Distinct.modify {s : WorldState} (h : s.Distinct) {f : Entity → Entity}
    (hf : ∀ e : Entity, e.Distinct → (f e).Distinct) (key : Text) : (s.modify key f).Distinct := by
  refine ⟨nodup_keys_modify h.keys key f, fun p hp => ?_⟩
  rcases mem_modifyIn hp with hp | rfl
  · exact h.entities p hp
  · refine hf _ ?_
    show ((s.find? key).getD .empty).Distinct
    cases he : s.find? key with
    | none => exact Entity.distinct_empty
    | some e => exact h.entities _ (mem_entities_of_find?_eq_some he)

end WorldState

end Roleplay
