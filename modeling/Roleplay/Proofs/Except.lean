/-!
# Steps that may fail

Steps are taken one after another up to the first that fails. So what went well as a whole went well
in each step.

## Main results

* `Except.exists_of_bind_eq_ok`, `Except.exists_of_map_eq_ok`, `Except.exists_of_foldlM_cons`: the
  first step of several
* `Except.foldl_of_foldlM`: steps that go well are those of a run without failures
* `Except.mapM_eq_ok`: a list of steps that go well
-/

namespace Roleplay.Except

variable {ε α β : Type}

/-- What went well in two steps went well in each. -/
theorem exists_of_bind_eq_ok {x : Except ε α} {f : α → Except ε β} {b : β}
    (h : (x >>= f) = .ok b) : ∃ a, x = .ok a ∧ f a = .ok b := by
  cases x with
  | error e => cases h
  | ok a => exact ⟨a, rfl, h⟩

/-- What went well and is changed went well before. -/
theorem exists_of_map_eq_ok {x : Except ε α} {f : α → β} {b : β} (h : f <$> x = .ok b) :
    ∃ a, x = .ok a ∧ f a = b := by
  cases x with
  | error e => cases h
  | ok a =>
    cases h
    exact ⟨a, rfl, rfl⟩

/-- **A run that went well** went well in its first step, and from there. -/
theorem exists_of_foldlM_cons {f : β → α → Except ε β} {a : α} {as : List α} {b c : β}
    (h : (a :: as).foldlM f b = .ok c) : ∃ next, f b a = .ok next ∧ as.foldlM f next = .ok c := by
  rw [List.foldlM_cons] at h
  exact exists_of_bind_eq_ok h

/-- **Steps that went well** lead where the same steps lead that cannot fail. -/
theorem foldl_of_foldlM {f : β → α → Except ε β} {g : β → α → β}
    (hstep : ∀ b a c, f b a = .ok c → g b a = c) {as : List α} {b c : β}
    (h : as.foldlM f b = .ok c) : as.foldl g b = c := by
  induction as generalizing b with
  | nil =>
    cases h
    rfl
  | cons a as ih =>
    obtain ⟨next, hnext, h⟩ := exists_of_foldlM_cons h
    rw [List.foldl_cons, hstep b a next hnext]
    exact ih h

/-- Steps that all go well give what each of them gives. -/
theorem mapM_eq_ok {f : α → Except ε β} {g : α → β} {as : List α}
    (h : ∀ a ∈ as, f a = .ok (g a)) : as.mapM f = .ok (as.map g) := by
  induction as with
  | nil => rfl
  | cons a as ih =>
    rw [List.mapM_cons, h a List.mem_cons_self, ih fun b hb => h b (List.mem_cons_of_mem a hb)]
    rfl

end Roleplay.Except
