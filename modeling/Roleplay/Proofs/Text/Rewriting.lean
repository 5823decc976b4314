import Mathlib.Data.List.Infix

/-!
# Rewriting a list from left to right

A list is rewritten in one pass: where some elements at the head are to be replaced, their image
stands instead and the pass goes on behind them; any other element is kept. So nothing of an image
is looked at again.

## Main definitions

* `rewriteFrom`, `rewriteList`: the pass

## Main results

* `rewriteList_append_of_some`, `rewriteList_append_of_none`: the pass over a part that is replaced,
  and over one in which nothing is
* `map_rewriteList`: what is made of the list is told by what is made of the images
-/

namespace Roleplay

variable {α β γ : Type} {image? : List α → Option (Nat × List β)} {keep : α → β} {l r : List α}

/-- A list rewritten from left to right. `image?` tells how many elements at the head are replaced,
and by what; the first `skip` elements are replaced already. -/
def rewriteFrom (image? : List α → Option (Nat × List β)) (keep : α → β) :
    (skip : Nat) → List α → List β
  | _, [] => []
  | skip + 1, _ :: l => rewriteFrom image? keep skip l
  | 0, a :: l =>
    match image? (a :: l) with
    | some (n, u) => u ++ rewriteFrom image? keep (n - 1) l
    | none => keep a :: rewriteFrom image? keep 0 l

/-- **A list rewritten** from left to right. -/
def rewriteList (image? : List α → Option (Nat × List β)) (keep : α → β) (l : List α) : List β :=
  rewriteFrom image? keep 0 l

theorem rewriteFrom_append (l r : List α) :
    rewriteFrom image? keep l.length (l ++ r) = rewriteList image? keep r := by
  induction l with
  | nil => rfl
  | cons a l ih => exact ih

/-- **A part that is replaced.** -/
theorem rewriteList_append_of_some {u : List β} (hne : l ≠ [])
    (h : image? (l ++ r) = some (l.length, u)) :
    rewriteList image? keep (l ++ r) = u ++ rewriteList image? keep r := by
  obtain ⟨a, l, rfl⟩ := List.exists_cons_of_ne_nil hne
  rw [List.cons_append] at h ⊢
  rw [rewriteList, rewriteFrom, h]
  exact congrArg (u ++ ·) (rewriteFrom_append l r)

theorem rewriteList_cons_of_none {a : α} (h : image? (a :: l) = none) :
    rewriteList image? keep (a :: l) = keep a :: rewriteList image? keep l := by
  rw [rewriteList, rewriteFrom, h]
  rfl

/-- **A part in which nothing is replaced.** -/
theorem rewriteList_append_of_none
    (h : ∀ (x : List α) (a : α) (y : List α), l = x ++ a :: y → image? (a :: (y ++ r)) = none) :
    rewriteList image? keep (l ++ r) = l.map keep ++ rewriteList image? keep r := by
  induction l with
  | nil => rfl
  | cons a l ih =>
    rw [List.cons_append, rewriteList_cons_of_none (h [] a l rfl), List.map_cons, List.cons_append]
    exact congrArg (keep a :: ·) (ih fun x b y hl => h (a :: x) b y (congrArg (a :: ·) hl))

theorem map_rewriteFrom (f : β → γ) (skip : Nat) (l : List α) :
    (rewriteFrom image? keep skip l).map f =
      rewriteFrom (fun l => (image? l).map fun (n, u) => (n, u.map f)) (f ∘ keep) skip l := by
  induction l generalizing skip with
  | nil => cases skip <;> rfl
  | cons a l ih =>
    cases skip with
    | succ skip => exact ih skip
    | zero =>
      rw [rewriteFrom, rewriteFrom]
      cases image? (a :: l) with
      | none => exact congrArg (f (keep a) :: ·) (ih 0)
      | some nu =>
        obtain ⟨n, u⟩ := nu
        rw [List.map_append, ih]
        rfl

/-- **What is made of a list** is told by what is made of the images. -/
theorem map_rewriteList (f : β → γ) (l : List α) :
    (rewriteList image? keep l).map f =
      rewriteList (fun l => (image? l).map fun (n, u) => (n, u.map f)) (f ∘ keep) l :=
  map_rewriteFrom f 0 l

end Roleplay
