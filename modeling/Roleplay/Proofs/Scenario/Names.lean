import Roleplay.Proofs.Text.Lower
import Roleplay.Proofs.Text.Squeeze
import Roleplay.Scenario.Basic

/-!
# The ids of scenarios

The id of a name has small letters and no blanks: each run of blanks between its words has become
an underscore, and the others are gone. So the id of an id is the id itself. Marks are left alone;
a slash, say, stands in an id exactly when it stands in the name.

## Main results

* `Scenario.idOfName_idOfName`: an id is its own id
* `Scenario.mem_idOfName_iff`: marks in an id
-/

namespace Roleplay

namespace Scenario

open Text

variable {name : Text} {c : Char}

/-- No blank stands in an id. -/
theorem isBlank_of_mem_idOfName (h : c ∈ idOfName name) : isBlank c = false := by
  rcases mem_squeeze h with rfl | ⟨-, hc⟩
  · decide
  · exact hc

/-- All letters of an id are small. -/
theorem isSmall_of_mem_idOfName (h : c ∈ idOfName name) : IsSmall c := by
  rcases mem_squeeze h with rfl | ⟨hc, -⟩
  · decide
  · exact isSmall_of_mem_lower hc

/-- **An id is its own id.** -/
theorem idOfName_idOfName (name : Text) : idOfName (idOfName name) = idOfName name := by
  have hblank : ∀ c ∈ idOfName name, isBlank c = false := fun c => isBlank_of_mem_idOfName
  have hstrip : (idOfName name).strip = idOfName name :=
    stripped_iff.mpr ⟨fun c hc => hblank c (List.mem_of_head? hc),
      fun c hc => hblank c (List.mem_of_getLast? hc)⟩
  have hlower : (idOfName name).lower = idOfName name :=
    lowerAfter_eq_self (fun c => isSmall_of_mem_idOfName) []
  rw [idOfName, hstrip, hlower, squeeze_eq_self hblank]

/-- **A mark stands in an id** exactly when it stands in the name. -/
theorem mem_idOfName_iff (hmark : c.toNat < 97) (hsmall : IsSmall c) (hblank : isBlank c = false)
    (hc : c ≠ '_') : c ∈ idOfName name ↔ c ∈ name := by
  constructor
  · intro h
    rcases mem_squeeze h with rfl | ⟨hlower, -⟩
    · exact absurd rfl hc
    · rcases mem_or_letter_of_mem_lower hlower with hstrip | ⟨hletter, -⟩
      · exact (strip_isInfix name).subset hstrip
      · omega
  · intro h
    exact mem_squeeze_of_mem (mem_lower_of_isSmall hsmall (mem_strip h hblank)) hblank

end Scenario

end Roleplay
