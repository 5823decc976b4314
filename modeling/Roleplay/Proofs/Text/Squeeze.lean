import Roleplay.Text.Basic

/-!
# Runs that become one character

Squeezing a text makes one character of each run of characters of some kind. All others stay where
they are.

## Main results

* `Text.squeeze_eq_self`: where no run is, nothing changes
* `Text.mem_squeeze`, `Text.mem_squeeze_of_mem`: what is left
-/

namespace Roleplay.Text

variable {p : Char → Bool} {r c : Char} {t : Text}

/-- Where no run is, nothing changes. -/
theorem squeeze_eq_self (h : ∀ c ∈ t, p c = false) : t.squeeze p r = t := by
  fun_induction squeeze p r t with
  | case1 => rfl
  | case2 c hc => exact absurd hc (by simp [h c])
  | case3 c hc => rfl
  | case4 c d t hc => exact absurd hc (by simp [h c])
  | case5 c d t hc => exact absurd hc (by simp [h c])
  | case6 c d t hc ih => rw [ih fun e he => h e (List.mem_cons_of_mem c he)]

/-- **What is left** are the characters of no run, and those that runs have become. -/
theorem mem_squeeze (h : c ∈ t.squeeze p r) : c = r ∨ c ∈ t ∧ p c = false := by
  fun_induction squeeze p r t with
  | case1 => cases h
  | case2 d hd => exact .inl (List.mem_singleton.mp h)
  | case3 d hd =>
    rw [List.mem_singleton.mp h]
    exact .inr ⟨List.mem_cons_self, Bool.eq_false_iff.mpr hd⟩
  | case4 d e t hd he ih => exact (ih h).imp_right fun hc => ⟨List.mem_cons_of_mem d hc.1, hc.2⟩
  | case5 d e t hd he ih =>
    rcases List.mem_cons.mp h with rfl | h
    · exact .inl rfl
    · exact (ih h).imp_right fun hc => ⟨List.mem_cons_of_mem d hc.1, hc.2⟩
  | case6 d e t hd ih =>
    rcases List.mem_cons.mp h with rfl | h
    · exact .inr ⟨List.mem_cons_self, Bool.eq_false_iff.mpr hd⟩
    · exact (ih h).imp_right fun hc => ⟨List.mem_cons_of_mem d hc.1, hc.2⟩

/-- A character of no run stays. -/
theorem mem_squeeze_of_mem (h : c ∈ t) (hc : p c = false) : c ∈ t.squeeze p r := by
  fun_induction squeeze p r t with
  | case1 => cases h
  | case2 d hd =>
    rw [List.mem_singleton.mp h, hd] at hc
    cases hc
  | case3 d hd => exact h
  | case4 d e t hd he ih =>
    rcases List.mem_cons.mp h with rfl | h
    · cases hc.symm.trans hd
    · exact ih h
  | case5 d e t hd he ih =>
    rcases List.mem_cons.mp h with rfl | h
    · cases hc.symm.trans hd
    · exact List.mem_cons_of_mem r (ih h)
  | case6 d e t hd ih =>
    rcases List.mem_cons.mp h with rfl | h
    · exact List.mem_cons_self
    · exact List.mem_cons_of_mem d (ih h)

end Roleplay.Text
