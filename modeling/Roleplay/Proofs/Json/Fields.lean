import Roleplay.Json.Checked
import Roleplay.Proofs.Entries

/-!
# Fields of a document

A field of a record is read from the member of its name, or has its default. When members are put
over others, a field is read from the upper ones where they have its name, and only otherwise from
the lower ones. So what a field gives can be told from either side alone.

## Main definitions

* `Members.Gives`: a field that is read as a value

## Main results

* `Checked.seq_eq_valid_iff`, `Checked.ensure_eq_valid_iff`: when a check holds
* `Members.Gives.eq_or_exists`, `Members.Gives.ensure`: what a field may give
* `Members.Gives.merge_iff_of_none`, `Members.Gives.merge_iff_of_get?`,
  `Members.Gives.merge_of_default`, `Members.Gives.merge_again`: a field of members put over others
-/

namespace Roleplay

/-! ## Checks that hold -/

namespace Checked

variable {α β : Type}

theorem map_eq_valid_iff {f : α → β} {c : Checked α} {b : β} :
    f <$> c = .valid b ↔ ∃ a, c = .valid a ∧ f a = b := by
  show c.map f = _ ↔ _
  cases c <;> simp [map]

/-- **Both sides of a check** must hold. -/
theorem seq_eq_valid_iff {f : Checked (α → β)} {c : Checked α} {b : β} :
    f <*> c = .valid b ↔ ∃ g a, f = .valid g ∧ c = .valid a ∧ g a = b := by
  show f.apply c = _ ↔ _
  cases f <;> cases c <;> simp [apply]

theorem under_eq_valid_iff {c : Checked α} {step : Text} {a : α} :
    c.under step = .valid a ↔ c = .valid a := by
  cases c <;> simp [under]

theorem ensure_eq_valid_iff {c : Checked α} {p : α → Bool} {a : α} :
    c.ensure p = .valid a ↔ c = .valid a ∧ p a = true := by
  cases c with
  | valid b =>
    rw [ensure]
    split
    · next hb =>
      constructor
      · intro h
        cases h
        exact ⟨rfl, hb⟩
      · exact fun h => h.1
    · next hb =>
      constructor
      · intro h
        cases h
      · rintro ⟨h, ha⟩
        cases h
        exact absurd ha hb
  | invalid fs => simp [ensure]

theorem ofOption_eq_valid_iff {o : Option α} {a : α} : ofOption o = .valid a ↔ o = some a := by
  cases o <;> simp [ofOption]

end Checked

/-! ## Fields -/

namespace Members

variable {α : Type} {ms : Members} {name : Text} {default a : α} {read : Json → Checked α}

/-- A member that is no null when it is taken is there. -/
theorem get?_eq_some_of_get {k : Text} {v : Json} (h : ms.get k = v) (hv : v ≠ .null) :
    ms.get? k = some v := by
  rw [Members.get] at h
  cases hk : ms.get? k with
  | none =>
    rw [hk] at h
    exact absurd h.symm hv
  | some w =>
    rw [hk] at h
    exact congrArg some h

theorem firstOf_cons (k : Text) (ks : List Text) (ms : Members) :
    ms.firstOf (k :: ks) = match ms.get? k with
      | some v => some (k, v)
      | none => ms.firstOf ks := by
  rw [firstOf, List.findSome?_cons]
  cases ms.get? k <;> rfl

theorem firstOf_eq_none {ks : List Text} (h : ∀ k ∈ ks, ms.get? k = none) :
    ms.firstOf ks = none := by
  rw [firstOf, List.findSome?_eq_none_iff]
  intro k hk
  rw [h k hk]
  rfl

theorem firstOf_congr {ks : List Text} {ms ms' : Members} (h : ∀ k ∈ ks, ms.get? k = ms'.get? k) :
    ms.firstOf ks = ms'.firstOf ks := by
  induction ks with
  | nil => rfl
  | cons k ks ih =>
    rw [firstOf_cons, firstOf_cons, h k List.mem_cons_self,
      ih fun k' hk' => h k' (List.mem_cons_of_mem k hk')]

theorem get?_of_firstOf {ks : List Text} {k : Text} {v : Json} (h : ms.firstOf ks = some (k, v)) :
    ms.get? k = some v := by
  obtain ⟨k', -, hk'⟩ := List.exists_of_findSome?_eq_some h
  obtain ⟨v', hv', heq⟩ := Option.map_eq_some_iff.mp hk'
  cases heq
  exact hv'

/-- **A field gives a value**: the member under the first of its names that is there is read as the
value, or there is none and the value is the default. -/
def Gives (ms : Members) (names : List Text) (default : α) (read : Json → Checked α) (a : α) :
    Prop :=
  ms.optional names default read = .valid a

namespace Gives

variable {names others : List Text} {upper lower lower' : Members}

theorem of_get? {v : Json} (hv : ms.get? name = some v) (h : read v = .valid a) :
    ms.Gives (name :: others) default read a := by
  rw [Gives, optional, firstOf_cons, hv]
  exact Checked.under_eq_valid_iff.mpr h

/-- What a field gives is its default, or is read from a member. -/
theorem eq_or_exists (h : ms.Gives names default read a) :
    a = default ∨ ∃ k v, ms.get? k = some v ∧ read v = .valid a := by
  rw [Gives, optional] at h
  split at h
  · next k v hfirst => exact Or.inr ⟨k, v, get?_of_firstOf hfirst, Checked.under_eq_valid_iff.mp h⟩
  · exact Or.inl (Checked.valid.inj h).symm

/-- What a field gives passes its check, when the default does. -/
theorem ensure {p : α → Bool} (h : ms.Gives names default (fun v => (read v).ensure p) a)
    (hdefault : p default = true) : p a = true := by
  rcases h.eq_or_exists with rfl | ⟨k, v, -, hread⟩
  · exact hdefault
  · exact (Checked.ensure_eq_valid_iff.mp hread).2

/-- A field whose other names are not there is read under the first one. -/
theorem iff_elim (h : ∀ k ∈ others, ms.get? k = none) :
    ms.Gives (name :: others) default read a ↔
      (ms.get? name).elim (.valid default) read = .valid a := by
  rw [Gives, optional, firstOf_cons, firstOf_eq_none h]
  cases ms.get? name with
  | none => rfl
  | some v => exact Checked.under_eq_valid_iff

theorem iff_elim_merge (hnodup : (upper.map (·.1)).Nodup)
    (hupper : ∀ k ∈ others, upper.get? k = none) (hlower : ∀ k ∈ others, lower.get? k = none) :
    Members.Gives (lower.merge upper) (name :: others) default read a ↔
      ((upper.get? name).or (lower.get? name)).elim (.valid default) read = .valid a := by
  rw [iff_elim, Entries.get?_merge lower hnodup]
  intro k hk
  rw [Entries.get?_merge lower hnodup, hupper k hk, hlower k hk]
  rfl

/-- A field that the lower members have no name of is the upper ones'. -/
theorem merge_iff_of_none (hnodup : (upper.map (·.1)).Nodup)
    (hlower : ∀ k ∈ names, lower.get? k = none) :
    Members.Gives (lower.merge upper) names default read a ↔ upper.Gives names default read a := by
  have hfirst : Members.firstOf names (lower.merge upper) = upper.firstOf names := by
    refine firstOf_congr fun k hk => ?_
    rw [Entries.get?_merge lower hnodup, hlower k hk, Option.or_none]
  rw [Gives, Gives, optional, optional, hfirst]

/-- **A field that the lower members give** under its first name is given by the upper ones under
that name alone, and what the lower ones give is its default. -/
theorem merge_iff_of_get? (hnodup : (upper.map (·.1)).Nodup) {v : Json} {d : α}
    (hlower : lower.get? name = some v) (hd : read v = .valid d) :
    Members.Gives (lower.merge upper) (name :: others) default read a ↔
      upper.Gives [name] d read a := by
  rw [Gives, Gives, optional, optional, firstOf_cons, firstOf_cons,
    Entries.get?_merge lower hnodup, hlower]
  cases upper.get? name with
  | some w => rfl
  | none => simp [firstOf, Checked.under_eq_valid_iff, hd]

/-- **A field of the upper members** is what they give, when the lower ones leave its default. -/
theorem merge_of_default (hnodup : (upper.map (·.1)).Nodup)
    (hupper : ∀ k ∈ others, upper.get? k = none) (hlower : ∀ k ∈ others, lower.get? k = none)
    (h : upper.Gives (name :: others) default read a)
    (hdefault : upper.get? name = none → lower.get? name = none) :
    Members.Gives (lower.merge upper) (name :: others) default read a := by
  rw [iff_elim hupper] at h
  rw [iff_elim_merge hnodup hupper hlower]
  cases hv : upper.get? name with
  | none =>
    rw [hv] at h
    rw [hdefault hv]
    exact h
  | some v =>
    rw [hv] at h
    exact h

/-- **A field is given again** when the lower members are such that give it by themselves. -/
theorem merge_again (hnodup : (upper.map (·.1)).Nodup) (hupper : ∀ k ∈ others, upper.get? k = none)
    (hlower : ∀ k ∈ others, lower.get? k = none) (hlower' : ∀ k ∈ others, lower'.get? k = none)
    (h : Members.Gives (lower.merge upper) (name :: others) default read a)
    (h' : lower'.Gives (name :: others) default read a) :
    Members.Gives (lower'.merge upper) (name :: others) default read a := by
  rw [iff_elim_merge hnodup hupper hlower] at h
  rw [iff_elim hlower'] at h'
  rw [iff_elim_merge hnodup hupper hlower']
  cases hv : upper.get? name with
  | none => exact h'
  | some v =>
    rw [hv] at h
    exact h

end Gives

end Members

end Roleplay
