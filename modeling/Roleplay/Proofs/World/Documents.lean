import Roleplay.Proofs.Entries
import Roleplay.Proofs.World.CurrentForm

/-!
# States as documents

The document of a state is read as the state: entity by entity and attribute by attribute, types,
items and descriptions included. It is in the current form, so it is migrated by no rule for older
documents, whatever the names in it are and whatever stands beside it.

## Main definitions

* `WorldState.Reachable`: a state that the operations lead to

## Main results

* `Checked.items_map`, `Checked.members_map`: lists that were written item by item are read back
* `WorldState.reachable_iff_distinct`: the operations lead to the states with distinct keys and names
* `WorldState.members_toJson`: the entities of a state are read back from its document
* `WorldInfo.ofJson_written`: a document that begins with a state has that state
-/

namespace Roleplay

/-! ## Reachable states -/

/-- **A state that the operations lead to**: one made of entities with attributes, and one in which
an entity was made, or an attribute of an entity set, removed or given an item. -/
inductive WorldState.Reachable : WorldState → Prop
  | ofEntities {es : List (Text × List Attribute)} (h : (es.map (·.1)).Nodup) :
    Reachable ⟨es.map fun (k, as) => (k, .ofAttributes as)⟩
  | ensure {s : WorldState} (h : Reachable s) (key : Text) : Reachable (s.ensure key)
  | set {s : WorldState} (h : Reachable s) (key : Text) (a : Attribute) :
    Reachable (s.modify key (·.set a))
  | remove {s : WorldState} (h : Reachable s) (key name : Text) :
    Reachable (s.modify key fun e => (e.remove name).1)
  | append {s : WorldState} (h : Reachable s) (key name : Text) (i : Item) :
    Reachable (s.modify key (·.append name i))

/-- **The operations lead to the states with distinct keys and names**, and to no others. -/
theorem WorldState.reachable_iff_distinct {s : WorldState} : s.Reachable ↔ s.Distinct := by
  constructor
  · intro h
    induction h with
    | ofEntities h =>
      refine ⟨by simpa [keys, Function.comp_def] using h, fun q hq => ?_⟩
      obtain ⟨p, -, rfl⟩ := List.mem_map.mp hq
      exact Entity.distinct_ofAttributes p.2
    | ensure _ key ih => exact ih.modify (fun _ he => he) key
    | set _ key a ih => exact ih.modify (fun _ he => he.set a) key
    | remove _ key name ih => exact ih.modify (fun _ he => he.remove name) key
    | append _ key name i ih => exact ih.modify (fun _ he => he.append name i) key
  · intro h
    -- a state with distinct names is made of its own entities
    have hmade : s = ⟨(s.entities.map fun q => (q.1, q.2.attributes)).map
        fun (k, as) => (k, .ofAttributes as)⟩ := by
      have hself : ∀ q ∈ s.entities, (q.1, Entity.ofAttributes q.2.attributes) = q :=
        fun q hq => Prod.ext rfl (Entity.ofAttributes_eq_self (h.entities q hq))
      rw [List.map_map]
      exact congrArg mk ((List.map_congr_left hself).trans (List.map_id _)).symm
    rw [hmade]
    exact .ofEntities (by simpa [keys, Function.comp_def] using h.keys)

/-! ## Reading what was written -/

namespace Checked

variable {α : Type} {read : Json → Checked α} {write : α → Json}

/-- **Items that were written one by one** are read back. -/
theorem items_map {xs : List α} (h : ∀ x ∈ xs, read (write x) = .valid x) (i : Nat) :
    items read i (xs.map write) = .valid xs := by
  induction xs generalizing i with
  | nil => rfl
  | cons x xs ih =>
    rw [List.map_cons, items, h x List.mem_cons_self,
      ih fun y hy => h y (List.mem_cons_of_mem x hy)]
    rfl

/-- **Members that were written one by one** are read back. -/
theorem members_map {es : List (Text × α)} (h : ∀ e ∈ es, read (write e.2) = .valid e.2) :
    members read (es.map fun (k, x) => (k, write x)) = .valid es := by
  induction es with
  | nil => rfl
  | cons e es ih =>
    rw [List.map_cons, members, h e List.mem_cons_self,
      ih fun f hf => h f (List.mem_cons_of_mem e hf)]
    rfl

end Checked

theorem Item.ofJson_toJson (i : Item) : Item.ofJson i.toJson = .valid i := rfl

/-- A text is read as a text and a list as a list. -/
theorem AttributeValue.ofJson_toJson (v : AttributeValue) :
    AttributeValue.ofJson v.toJson = .valid v := by
  cases v with
  | text t => rfl
  | list items =>
    have hitems : Checked.items Item.ofJson 0 (items.map Item.toJson) = .valid items :=
      Checked.items_map (fun i _ => Item.ofJson_toJson i) 0
    rw [toJson, ofJson]
    · rw [Checked.array, hitems]
    · exact fun t => Json.noConfusion

theorem Attribute.typeOfJson_typeName (v : AttributeValue) :
    typeOfJson (.str v.typeName) = .valid v.isList := by
  cases v <;> rfl

theorem Attribute.ofJson_toJson (a : Attribute) : Attribute.ofJson a.toJson = .valid a := by
  obtain ⟨name, value⟩ := a
  -- the three fields are read one by one, and then compared
  show (Checked.ensure _ ((fun n l v => (n, l, v)) <$> Checked.valid name
      <*> (typeOfJson (.str value.typeName)).under "type"
      <*> (AttributeValue.ofJson value.toJson).under "value")).map _ = _
  rw [typeOfJson_typeName, value.ofJson_toJson]
  show (Checked.ensure _ (.valid (name, value.isList, value))).map _ = _
  rw [Checked.ensure, if_pos (decide_eq_true rfl)]
  rfl

/-- The document of an entity is in the current form. -/
theorem Entity.current_toJson {e : Entity} (h : e.Distinct) :
    Entity.Current e.toJson e.attributes where
  lists := ⟨_, _, rfl, rfl, Checked.items_map (fun a _ => Attribute.ofJson_toJson a) 0⟩
  distinct := h

/-- **The entities of a state** are read back from its document. -/
theorem WorldState.members_toJson {s : WorldState} (h : s.Distinct) :
    Checked.members Entity.ofJson (s.entities.map fun (k, e) => (k, e.toJson)) =
      .valid s.entities :=
  Checked.members_map fun q hq => (Entity.current_toJson (h.entities q hq)).ofJson_eq

/-- The document of a state is no older one. -/
theorem WorldState.isFlat_toJson (s : WorldState) :
    Legacy.isFlat (s.entities.map fun (k, e) => (k, e.toJson)) = false := by
  obtain ⟨es⟩ := s
  cases es with
  | nil => rfl
  | cons q es => rfl

/-- **A document that begins with a state** has that state, whatever follows. -/
theorem WorldInfo.ofJson_written {s : WorldState} (h : s.Distinct) (rest : Members) :
    ∃ extra, ofJson (.obj ((Legacy.stateKey, s.toJson) :: rest)) = .ok ⟨some s, extra⟩ := by
  have hstate : Entries.get? ((Legacy.stateKey, s.toJson) :: rest) Legacy.stateKey =
      some s.toJson := by
    rw [Entries.get?_cons, if_pos rfl]
  exact ⟨_, ofJson_of_current hstate s.isFlat_toJson (WorldState.members_toJson h)⟩

end Roleplay
