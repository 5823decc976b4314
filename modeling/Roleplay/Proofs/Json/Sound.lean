import Roleplay.Proofs.Entries
import Roleplay.Proofs.Json.Reading
import Roleplay.Proofs.Number.Rounding

/-!
# Documents that can be read

The values that reading gives are sound: in an object every name stands once, binary numbers are
canonical, and whole numbers have no more digits than a numeral may have. A sound value is what
writing and reading keeps.

## Main definitions

* `Json.Sound`: the values of documents

## Main results

* `Json.sound_of_read`: what is read is sound
-/

namespace Roleplay

/-- **The values of documents.** -/
inductive Json.Sound : Json → Prop
  | null : Sound .null
  | bool (b : Bool) : Sound (.bool b)
  | int {i : Int} (h : i.natAbs < 10 ^ Numeral.maxDigits) : Sound (.int i)
  | float {x : Binary64} (h : x.IsCanonical) : Sound (.float x)
  | str (s : Text) : Sound (.str s)
  | arr {xs : List Json} (h : ∀ x ∈ xs, Sound x) : Sound (.arr xs)
  | obj {ms : Members} (hnodup : (ms.map (·.1)).Nodup) (h : ∀ p ∈ ms, Sound p.2) : Sound (.obj ms)

namespace Json

/-- Every numeral that can be read has a number in its normal form. -/
theorem canonical_of_float? {t : Text} {x : Binary64} (h : Numeral.float? t = some x) :
    x.IsCanonical := by
  rw [Numeral.float?] at h
  dsimp only at h
  split at h
  · cases h
    trivial
  · split at h
    · cases h
      trivial
    · rw [Numeral.unsignedFloat?] at h
      -- with a point and without one
      split at h
      all_goals
        split at h
        · cases h
        · obtain ⟨e, -, rfl⟩ := Option.map_eq_some_iff.mp h
          exact Binary64.canonical_ofDecimal _ _ _

/-- A number of a length that fits is sound. -/
theorem SpellsNumber.sound {t : Text} {v : Json} (h : SpellsNumber (· ≤ Numeral.maxDigits) t v) :
    v.Sound := by
  cases h with
  | int negative hwhole hfits =>
    apply Sound.int
    have hlt := (Numeral.valueOf_lt_pow hwhole.digits).trans_le
      (Nat.pow_le_pow_right (by decide) hfits)
    cases negative with
    | true =>
      rw [Numeral.signed, if_pos rfl, Int.natAbs_neg]
      exact hlt
    | false => exact hlt
  | float => exact .float (Binary64.canonical_ofDecimal _ _ _)

theorem sound_of_mem_words {w : Text} {v : Json} (h : (w, v) ∈ words) : v.Sound := by
  simp only [words, List.mem_cons, Prod.mk.injEq, List.not_mem_nil, or_false] at h
  rcases h with ⟨-, rfl⟩ | ⟨-, rfl⟩ | ⟨-, rfl⟩ | ⟨-, rfl⟩ | ⟨-, rfl⟩ | ⟨-, rfl⟩
  · exact .null
  · exact .bool true
  · exact .bool false
  · exact .float trivial
  · exact .float trivial
  · exact .float trivial

/-- The parts of documents whose values are sound. -/
def Part.Sound : Part → Prop
  | .value v => v.Sound
  | .member _ v => v.Sound
  | .items xs => ∀ x ∈ xs, x.Sound
  | .members ms => ∀ m ∈ ms, m.2.Sound

/-- **What a text spells is sound.** -/
theorem Spells.sound {t : Text} {p : Part} (h : Spells (· ≤ Numeral.maxDigits) t p) : p.Sound := by
  induction h with
  | word h => exact sound_of_mem_words h
  | number h => exact h.sound
  | string => exact Json.Sound.str _
  | emptyArray => exact Json.Sound.arr (by simp)
  | array _ _ ih => exact Json.Sound.arr ih
  | emptyObject => exact Json.Sound.obj List.nodup_nil (by simp)
  | @object _ _ ms _ _ ih =>
    -- equal names are joined
    exact Json.Sound.obj (Entries.nodup_keys_ofList ms)
      fun m hm => ih m (Entries.mem_of_mem_ofList hm)
  | member _ _ _ _ ih => exact ih
  | lastItem _ _ ih => exact List.forall_mem_singleton.mpr ih
  | nextItem _ _ _ _ ih ihu => exact List.forall_mem_cons.mpr ⟨ih, ihu⟩
  | lastMember _ _ ih => exact List.forall_mem_singleton.mpr ih
  | nextMember _ _ _ _ ih ihu => exact List.forall_mem_cons.mpr ⟨ih, ihu⟩

/-- **What is read is sound.** -/
theorem sound_of_read {t : Text} {v : Json} (h : read t = .ok v) : v.Sound := by
  obtain ⟨w, u, w', -, hu, -, -⟩ := read_eq_ok_iff.mp h
  exact hu.sound

end Json

end Roleplay
