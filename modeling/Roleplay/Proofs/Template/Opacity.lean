import Roleplay.Proofs.Template.Evaluation

/-!
# Values are opaque

Nothing in the value of a variable is read as template. The first pass asks only which variables
are set. What it leaves is cut into literal texts and placeholders before any value is known, and
the second pass puts the values in the places of the placeholders.

## Main definitions

* `Template.Segment`: a literal text or a placeholder
* `Template.segments t`: the segments of a resolved template

## Main results

* `Template.flatMap_written_segments`, `Template.isName_of_mem_segments`: the segments make up the
  template, and the placeholders among them are names in braces
* `Template.fill_eq_flatMap`: the second pass fills the placeholders, whatever the values are
* `Template.render_opacity`: the value of a set variable decides nothing but its own places
-/

namespace Roleplay.Template

/-- **A segment** of a template without blocks. -/
inductive Segment
  | literal (t : Text)
  | placeholder (name : Text)
deriving DecidableEq, Repr

namespace Segment

/-- A segment in the template. -/
def written : Segment → Text
  | literal t => t
  | placeholder name => opening ++ (name ++ closing)

/-- A segment with a text for each name. -/
def filled (textOf : Text → Text) : Segment → Text
  | literal t => t
  | placeholder name => textOf name

end Segment

/-- **The segments** of a template without blocks: its placeholders, and what is around them. -/
def segments (t : Text) : List Segment :=
  match _ho : t.cut? opening with
  | none => [.literal t]
  | some (before, after) =>
    match _hc : after.cut? closing with
    | none => [.literal t]
    | some (name, rest) =>
      if isName name then .literal before :: .placeholder name :: segments rest
      else .literal (before ++ ['\x7b']) :: segments ('\x7b' :: after)
termination_by t.length
decreasing_by
  all_goals
    have h := congrArg List.length (Text.eq_of_cut?_eq_some _ho)
    simp only [opening, List.length_append, List.length_cons, List.length_nil] at h
  · have := congrArg List.length (Text.eq_of_cut?_eq_some _hc)
    simp only [List.length_append] at this
    omega
  · simp only [List.length_cons]; omega

/-- The segments make up the template. -/
theorem flatMap_written_segments (t : Text) : (segments t).flatMap Segment.written = t := by
  fun_induction segments t with
  | case1 t ho => simp [Segment.written]
  | case2 t before after ho hc => simp [Segment.written]
  | case3 t before after ho name rest hc hname ih =>
    -- the literal, the placeholder with its braces and the rest are the template
    have hafter := Text.eq_of_cut?_eq_some hc
    have ht := Text.eq_of_cut?_eq_some ho
    simp only [List.flatMap_cons, Segment.written, ih]
    rw [ht, hafter]
    simp only [List.append_assoc]
  | case4 t before after ho name rest hc hname ih =>
    have ht := Text.eq_of_cut?_eq_some ho
    simp only [List.flatMap_cons, Segment.written, ih]
    rw [ht]
    simp [opening]

/-- A placeholder is a name in braces. -/
theorem isName_of_mem_segments {t name : Text} (h : .placeholder name ∈ segments t) :
    isName name = true := by
  fun_induction segments t with
  | case1 t ho => simp at h
  | case2 t before after ho hc => simp at h
  | case3 t before after ho name' rest hc hname ih =>
    simp only [List.mem_cons, reduceCtorEq, Segment.placeholder.injEq, false_or] at h
    rcases h with rfl | h
    · exact hname
    · exact ih h
  | case4 t before after ho name' rest hc hname ih =>
    simp only [List.mem_cons, reduceCtorEq, false_or] at h
    exact ih h

/-! ## The second pass -/

section Fill

variable {textOf : Text → Text} {t before after name rest : Text}

theorem fill_of_unopened (ho : t.cut? opening = none) : fill textOf t = t := by
  rw [fill]
  split
  · rfl
  · next h => rw [ho] at h; cases h

theorem fill_of_unclosed (ho : t.cut? opening = some (before, after))
    (hc : after.cut? closing = none) : fill textOf t = t := by
  rw [fill]
  split
  · rfl
  · next h =>
    obtain ⟨rfl, rfl⟩ := Prod.mk.inj (Option.some.inj (ho.symm.trans h))
    split
    · rfl
    · next h => rw [hc] at h; cases h

/-- What is in the first braces is a placeholder, or the second brace is tried. -/
theorem fill_of_closed (ho : t.cut? opening = some (before, after))
    (hc : after.cut? closing = some (name, rest)) :
    fill textOf t =
      if isName name then before ++ textOf name ++ fill textOf rest
      else before ++ '\x7b' :: fill textOf ('\x7b' :: after) := by
  rw [fill]
  split
  · next h => rw [ho] at h; cases h
  · next h =>
    obtain ⟨rfl, rfl⟩ := Prod.mk.inj (Option.some.inj (ho.symm.trans h))
    split
    · next h => rw [hc] at h; cases h
    · next h =>
      obtain ⟨rfl, rfl⟩ := Prod.mk.inj (Option.some.inj (hc.symm.trans h))
      rfl

/-- **The second pass fills the placeholders**, whatever the values are. -/
theorem fill_eq_flatMap (textOf : Text → Text) (t : Text) :
    fill textOf t = (segments t).flatMap (Segment.filled textOf) := by
  -- the segments are cut where the pass looks, so both take the same cases
  fun_induction segments t with
  | case1 t ho =>
    rw [fill_of_unopened ho]
    simp [Segment.filled]
  | case2 t before after ho hc =>
    rw [fill_of_unclosed ho hc]
    simp [Segment.filled]
  | case3 t before after ho name rest hc hname ih =>
    rw [fill_of_closed ho hc, if_pos hname, ih]
    simp [Segment.filled]
  | case4 t before after ho name rest hc hname ih =>
    rw [fill_of_closed ho hc, if_neg hname, ih]
    simp [Segment.filled]

end Fill

/-- Variables that agree on what is set ask the same of the first pass. -/
theorem isSet_congr {v w : Variables} (h : ∀ name, v.Truthy name ↔ w.Truthy name) :
    v.isSet = w.isSet := by
  funext name
  rw [Bool.eq_iff_iff, Variables.isSet_iff, Variables.isSet_iff]
  exact h name

/-- **Values are opaque.** Two sets of variables that agree on which are set resolve a template to
the same text. For all of them there is one list of segments, which make up that text, and
rendering gives the literals and, in the places of the placeholders, the texts of the values. -/
theorem render_opacity (t : Text) :
    (∀ v w : Variables, (∀ name, v.Truthy name ↔ w.Truthy name) →
      resolveWith v t = resolveWith w t) ∧
    ∀ truthy : Text → Prop, ∃ segs : List Segment,
      (∀ name, .placeholder name ∈ segs → isName name = true) ∧
      ∀ v : Variables, (∀ name, v.Truthy name ↔ truthy name) →
        resolveWith v t = segs.flatMap Segment.written ∧
          render v t = segs.flatMap (Segment.filled v.text) := by
  classical
  constructor
  · intro v w h
    rw [resolveWith, resolveWith, isSet_congr h]
  · -- the segments of what the first pass leaves, which is the same for all such variables
    intro truthy
    refine ⟨segments (resolve (fun name => decide (truthy name)) t),
      fun _ => isName_of_mem_segments, fun v h => ?_⟩
    have hset : v.isSet = fun name => decide (truthy name) := by
      funext name
      rw [Bool.eq_iff_iff, Variables.isSet_iff, decide_eq_true_iff]
      exact h name
    rw [render, resolveWith, hset, flatMap_written_segments, fillWith, fill_eq_flatMap]
    exact ⟨rfl, rfl⟩

/-- One of two values is full of tags. -/
theorem render_opacity_tags :
    let t : Text := "\x7b\x7b#if a\x7d\x7d\x7b\x7b\x7ba\x7d\x7d\x7d\x7b\x7b/if\x7d\x7d"
    let v : Variables := [("a", .str "\x7b\x7b/if\x7d\x7d\x7b\x7ba\x7d\x7d")]
    let w : Variables := [("a", .str "x")]
    (∀ name, v.Truthy name ↔ w.Truthy name) ∧ resolveWith v t = resolveWith w t ∧
      ∃ segs : List Segment, render v t = segs.flatMap (Segment.filled v.text) ∧
        render w t = segs.flatMap (Segment.filled w.text) := by
  intro t v w
  have h : ∀ name, v.Truthy name ↔ w.Truthy name := by
    intro name
    simp only [Variables.Truthy, v, w, Entries.get?, List.lookup_cons, List.lookup_nil]
    split <;> simp
  obtain ⟨segs, -, hsegs⟩ := (render_opacity t).2 w.Truthy
  exact ⟨h, (render_opacity t).1 v w h, segs, (hsegs v h).2, (hsegs w fun _ => Iff.rfl).2⟩

end Roleplay.Template
