import Roleplay.Proofs.Text.Fold
import Roleplay.Proofs.Text.Rewriting
import Roleplay.Scenario.Basic

/-!
# Names put into a text

The two names are put into a text one after the other, so the second pass looks at the first name
too. It does the same as putting both names in at once exactly when every placeholder that takes in
a character of the first name, if there is any, is what would be put in its place. Such a
placeholder may stand in the name, or around it: the name `user` between braces makes one.

No placeholder begins inside another one, since its two braces would stand among the letters or
behind them. So a text is a row of placeholders and other characters in one way, and all passes over
it are compared along this row. The characters that the first pass put in are marked.

## Main definitions

* `MarksApart p q`: neither mark begins inside one of the two
* `fillFolded p a t`: the text `t` with `a` in the place of `p`, the inserted characters marked
* `replaceOriginal q b l`: a marked text with `b` in the place of `q` where nothing was inserted
* `insertNamesAtOnce t a b`: both names put into a text at once
* `Settled q b l`: what was inserted is in no occurrence of `q` other than `b` itself

## Main results

* `replaceOriginal_fillFolded`: the two passes, when the second spares what the first put in
* `replaceFolded_eq_replaceOriginal_iff`: when sparing it makes no difference
* `insertNames_eq_atOnce_iff`: when the names are put in as they are
-/

namespace Roleplay

open Text

variable {p q a b t : Text}

/-! ## Occurrences of marks -/

/-- Whether a text begins with a mark, in any case. -/
def Text.beginsFolded (t p : Text) : Bool :=
  (dropFolded? t p).isSome

theorem Text.beginsFolded_iff :
    t.beginsFolded p = true ↔ ∃ w r : Text, t = w ++ r ∧ w.SameFolded p := by
  rw [beginsFolded, Option.isSome_iff_exists]
  simp only [dropFolded?_eq_some_iff]
  exact exists_comm

theorem Text.SameFolded.length_eq (h : t.SameFolded p) : t.length = p.length := by
  simpa using congrArg List.length h

theorem Text.SameFolded.ne_nil (h : t.SameFolded p) (hp : p ≠ []) : t ≠ [] :=
  List.ne_nil_of_length_pos (h.length_eq ▸ List.length_pos_iff.mpr hp)

/-- **No** `q` **begins inside** `p`. -/
def NeverInside (p q : Text) : Prop :=
  ∀ x r y : Text, p ++ r = x ++ (q ++ y) → x = [] ∨ p.length ≤ x.length

/-- A mark begins inside another one where the rest of that one goes on as the mark does. -/
theorem neverInside_of_forall
    (h : ∀ k < p.length, 0 < k → ¬ p.drop k <+: q ∧ ¬ q <+: p.drop k) : NeverInside p q := by
  intro x r y heq
  by_contra hx
  obtain ⟨hne, hlt⟩ := not_or.mp hx
  rw [not_le] at hlt
  obtain ⟨hrest, hmark⟩ := h x.length hlt (List.length_pos_iff.mpr hne)
  have hdrop : p.drop x.length ++ r = q ++ y := by
    have := congrArg (List.drop x.length) heq
    rwa [List.drop_append_of_le_length hlt.le, List.drop_left] at this
  rcases List.prefix_or_prefix_of_prefix (List.prefix_append (p.drop x.length) r)
    (hdrop ▸ List.prefix_append q y) with hpre | hpre
  · exact hrest hpre
  · exact hmark hpre

/-- **Marks that stay apart**: they are folded, no text begins with both, and neither begins inside
one of the two. -/
structure MarksApart (p q : Text) : Prop where
  fold_left : p.map fold = p
  fold_right : q.map fold = q
  ne_nil_left : p ≠ []
  ne_nil_right : q ≠ []
  not_both : ¬ p <+: q ∧ ¬ q <+: p
  left_left : NeverInside p p
  left_right : NeverInside p q
  right_left : NeverInside q p
  right_right : NeverInside q q

theorem MarksApart.symm (h : MarksApart p q) : MarksApart q p :=
  ⟨h.fold_right, h.fold_left, h.ne_nil_right, h.ne_nil_left, h.not_both.symm, h.right_right,
    h.right_left, h.left_right, h.left_left⟩

theorem marksApart : MarksApart characterMark userMark where
  fold_left := by decide
  fold_right := by decide
  ne_nil_left := by decide
  ne_nil_right := by decide
  not_both := by decide
  left_left := neverInside_of_forall (by decide)
  left_right := neverInside_of_forall (by decide)
  right_left := neverInside_of_forall (by decide)
  right_right := neverInside_of_forall (by decide)

/-- No occurrence of a mark begins inside an occurrence of one that it never begins inside. -/
theorem NeverInside.of_sameFolded (h : NeverInside p q) (hp : p.map fold = p) (hq : q.map fold = q)
    {w w' x r y : Text} (hw : w.SameFolded p) (hw' : w'.SameFolded q)
    (heq : w ++ r = x ++ (w' ++ y)) : x = [] ∨ w.length ≤ x.length := by
  have hfold := congrArg (List.map fold) heq
  simp only [List.map_append] at hfold
  rw [hw, hw', hp, hq] at hfold
  have hcases := h _ _ _ hfold
  rwa [List.map_eq_nil_iff, List.length_map, ← hw.length_eq] at hcases

/-- No text begins with both marks. -/
theorem MarksApart.not_begins_both (h : MarksApart p q) {w w' r y : Text} (hw : w.SameFolded p)
    (hw' : w'.SameFolded q) : w ++ r ≠ w' ++ y := by
  intro heq
  have hfold := congrArg (List.map fold) heq
  simp only [List.map_append] at hfold
  rw [hw, hw', h.fold_left, h.fold_right] at hfold
  rcases List.prefix_or_prefix_of_prefix (List.prefix_append p _)
    (hfold ▸ List.prefix_append q _) with hpre | hpre
  · exact h.not_both.1 hpre
  · exact h.not_both.2 hpre

/-! ## Passes over a text -/

/-- A text with `a` in the place of `p`. The characters that were inserted are marked. -/
def fillFolded (p a t : Text) : List (Char × Bool) :=
  rewriteList (fun t => if beginsFolded t p then some (p.length, a.map (·, true)) else none)
    (·, false) t

/-- Whether a marked text begins with an occurrence of `q` in which nothing was inserted. -/
def beginsOriginal (l : List (Char × Bool)) (q : Text) : Bool :=
  (l.take q.length).all (!·.2) && beginsFolded (l.map Prod.fst) q

/-- A marked text with `b` in the place of `q` where nothing was inserted. -/
def replaceOriginal (q b : Text) (l : List (Char × Bool)) : Text :=
  rewriteList (fun l => if beginsOriginal l q then some (q.length, b) else none) Prod.fst l

/-- A text with `a` in the place of `p` and `b` in the place of `q`, in one pass. -/
def replaceBoth (p a q b t : Text) : Text :=
  rewriteList (fun t => if beginsFolded t p then some (p.length, a)
    else if beginsFolded t q then some (q.length, b) else none) id t

/-- **Both names put into a text at once.** -/
def insertNamesAtOnce (t character user : Text) : Text :=
  replaceBoth characterMark character userMark user t

theorem replaceFolded_eq (t p a : Text) :
    t.replaceFolded p a =
      rewriteList (fun t => if beginsFolded t p then some (p.length, a) else none) id t := by
  have hfrom : ∀ skip, replaceFoldedFrom p a skip t =
      rewriteFrom (fun t => if beginsFolded t p then some (p.length, a) else none) id skip t := by
    intro skip
    fun_induction replaceFoldedFrom p a skip t with
    | case1 skip => cases skip <;> rfl
    | case2 skip c t ih => exact ih
    | case3 c t h ih =>
      have hbegins : beginsFolded (c :: t) p = true := h
      rw [rewriteFrom, if_pos hbegins, ih]
    | case4 c t h ih =>
      have hbegins : ¬ beginsFolded (c :: t) p = true := h
      rw [rewriteFrom, if_neg hbegins, ih]
      rfl
  exact hfrom 0

@[simp] theorem map_fst_map_pair (f : Bool) (t : Text) : (t.map (·, f)).map Prod.fst = t := by
  simp [Function.comp_def]

/-- Without its marks a filled text is the text with the name in it. -/
theorem map_fst_fillFolded (p a t : Text) :
    (fillFolded p a t).map Prod.fst = t.replaceFolded p a := by
  rw [fillFolded, map_rewriteList, replaceFolded_eq]
  congr 1
  funext t
  split
  · exact congrArg (fun u => some (p.length, u)) (map_fst_map_pair true a)
  · rfl

/-- The order in which the marks are looked for makes no difference. -/
theorem replaceBoth_comm (h : MarksApart p q) (t : Text) :
    replaceBoth p a q b t = replaceBoth q b p a t := by
  rw [replaceBoth, replaceBoth]
  congr 1
  funext t
  by_cases hp : beginsFolded t p
  · have hq : ¬ beginsFolded t q := by
      intro hq
      obtain ⟨w, r, rfl, hw⟩ := beginsFolded_iff.mp hp
      obtain ⟨w', y, heq, hw'⟩ := beginsFolded_iff.mp hq
      exact h.not_begins_both hw hw' heq
    rw [if_pos hp, if_neg hq, if_pos hp]
  · rw [if_neg hp, if_neg hp]

/-- The first character of a mark, or one inside it, begins no other one. -/
theorem MarksApart.not_beginsFolded (h : MarksApart p q) {w x y r : Text} {c : Char}
    (hw : w.SameFolded q) (heq : w = x ++ c :: y) : ¬ beginsFolded (c :: (y ++ r)) p := by
  intro hp
  obtain ⟨w', z, hhead, hw'⟩ := beginsFolded_iff.mp hp
  have hall : w ++ r = x ++ (w' ++ z) := by rw [heq, ← hhead]; simp
  rcases h.right_left.of_sameFolded h.fold_right h.fold_left hw hw' hall with rfl | hlength
  · exact h.not_begins_both hw' hw hall.symm
  · rw [heq, List.length_append, List.length_cons] at hlength
    omega

/-! ## The first pass, and the second over what it left -/

theorem fillFolded_append (hp : p ≠ []) {w : Text} (hw : w.SameFolded p) (r : Text) :
    fillFolded p a (w ++ r) = a.map (·, true) ++ fillFolded p a r := by
  refine rewriteList_append_of_some (hw.ne_nil hp) ?_
  rw [if_pos (beginsFolded_iff.mpr ⟨w, r, rfl, hw⟩), hw.length_eq]

theorem fillFolded_cons {c : Char} (hp : ¬ beginsFolded (c :: t) p) :
    fillFolded p a (c :: t) = (c, false) :: fillFolded p a t :=
  rewriteList_cons_of_none (if_neg hp)

/-- The other mark is left as it is. -/
theorem fillFolded_append_other (h : MarksApart p q) {w : Text} (hw : w.SameFolded q) (r : Text) :
    fillFolded p a (w ++ r) = w.map (·, false) ++ fillFolded p a r :=
  rewriteList_append_of_none fun _ _ _ heq => if_neg (h.not_beginsFolded hw heq)

/-- **What was not inserted** at the head of a filled text is at the head of the text. -/
theorem exists_of_fillFolded_eq (hp : p ≠ []) (ha : a ≠ []) {w : Text} {l : List (Char × Bool)}
    (h : fillFolded p a t = w.map (·, false) ++ l) : ∃ r, t = w ++ r := by
  induction w generalizing t with
  | nil => exact ⟨t, rfl⟩
  | cons c w ih =>
    cases t with
    | nil => cases h
    | cons d t =>
      by_cases hbegins : beginsFolded (d :: t) p
      · -- an inserted character stands at the head
        obtain ⟨w', r, heq, hw'⟩ := beginsFolded_iff.mp hbegins
        obtain ⟨e, a, rfl⟩ := List.exists_cons_of_ne_nil ha
        rw [heq, fillFolded_append hp hw'] at h
        cases h
      · rw [fillFolded_cons hbegins, List.map_cons, List.cons_append] at h
        obtain ⟨hhead, h⟩ := List.cons.inj h
        obtain ⟨r, rfl⟩ := ih h
        cases hhead
        exact ⟨r, rfl⟩

/-- A text in which nothing was inserted has no marks. -/
theorem map_pair_map_fst {l : List (Char × Bool)} (h : ¬ ∃ c ∈ l, c.2 = true) :
    (l.map Prod.fst).map (·, false) = l := by
  rw [List.map_map]
  refine (List.map_congr_left fun c hc => ?_).trans (List.map_id l)
  exact Prod.ext rfl (Bool.eq_false_iff.mpr fun htrue => h ⟨c, hc, htrue⟩).symm

theorem beginsOriginal_iff {l : List (Char × Bool)} :
    beginsOriginal l q = true ↔ ∃ (w : Text) (r : List (Char × Bool)),
      l = w.map (·, false) ++ r ∧ w.SameFolded q := by
  rw [beginsOriginal, Bool.and_eq_true, beginsFolded_iff]
  constructor
  · rintro ⟨hall, w, r, hl, hw⟩
    obtain ⟨l₁, l₂, rfl, rfl, rfl⟩ := List.map_eq_append_iff.mp hl
    rw [List.take_left' (by rw [← hw.length_eq, List.length_map]), List.all_eq_true] at hall
    refine ⟨l₁.map Prod.fst, l₂, ?_, hw⟩
    rw [map_pair_map_fst]
    rintro ⟨c, hc, htrue⟩
    simpa [htrue] using hall c hc
  · rintro ⟨w, r, rfl, hw⟩
    refine ⟨?_, w, r.map Prod.fst, by rw [List.map_append, map_fst_map_pair], hw⟩
    rw [List.take_left' (by rw [List.length_map, hw.length_eq])]
    simp

theorem replaceOriginal_append (hq : q ≠ []) {w : Text} (hw : w.SameFolded q)
    (l : List (Char × Bool)) :
    replaceOriginal q b (w.map (·, false) ++ l) = b ++ replaceOriginal q b l := by
  refine rewriteList_append_of_some (fun h => hw.ne_nil hq (List.map_eq_nil_iff.mp h)) ?_
  rw [if_pos (beginsOriginal_iff.mpr ⟨w, l, rfl, hw⟩), List.length_map, hw.length_eq]

/-- What was inserted is kept. -/
theorem replaceOriginal_append_inserted (hq : q ≠ []) (u : Text) (l : List (Char × Bool)) :
    replaceOriginal q b (u.map (·, true) ++ l) = u ++ replaceOriginal q b l := by
  refine (rewriteList_append_of_none fun x c y hu => if_neg fun hbegins => ?_).trans ?_
  · obtain ⟨w, r, hhead, hw⟩ := beginsOriginal_iff.mp hbegins
    have hc : c.2 = true := by
      obtain ⟨e, -, rfl⟩ := List.mem_map.mp (hu ▸ List.mem_append_right x List.mem_cons_self)
      rfl
    obtain ⟨e, w, rfl⟩ := List.exists_cons_of_ne_nil (hw.ne_nil hq)
    rw [(List.cons.inj hhead).1] at hc
    cases hc
  · rw [map_fst_map_pair]
    rfl

theorem replaceOriginal_cons {c : Char × Bool} {l : List (Char × Bool)}
    (h : ¬ beginsOriginal (c :: l) q) :
    replaceOriginal q b (c :: l) = c.1 :: replaceOriginal q b l :=
  rewriteList_cons_of_none (if_neg h)

/-- **The two passes**, when the second spares what the first put in, are one pass. -/
theorem replaceOriginal_fillFolded (h : MarksApart p q) (ha : a ≠ []) (t : Text) :
    replaceOriginal q b (fillFolded p a t) = replaceBoth p a q b t := by
  have hp := h.ne_nil_left
  have hq := h.ne_nil_right
  induction hn : t.length using Nat.strong_induction_on generalizing t with
  | _ n ih =>
    subst hn
    -- the text begins with the one mark, with the other one, or with some other character
    by_cases hbegins : beginsFolded t p
    · obtain ⟨w, r, rfl, hw⟩ := beginsFolded_iff.mp hbegins
      have hboth : replaceBoth p a q b (w ++ r) = a ++ replaceBoth p a q b r :=
        rewriteList_append_of_some (hw.ne_nil hp) (by rw [if_pos hbegins, hw.length_eq])
      have hshort : r.length < (w ++ r).length := by
        rw [List.length_append]
        exact Nat.lt_add_of_pos_left (List.length_pos_iff.mpr (hw.ne_nil hp))
      rw [fillFolded_append hp hw, replaceOriginal_append_inserted hq, hboth, ih _ hshort r rfl]
    · by_cases hother : beginsFolded t q
      · obtain ⟨w, r, rfl, hw⟩ := beginsFolded_iff.mp hother
        have hboth : replaceBoth p a q b (w ++ r) = b ++ replaceBoth p a q b r :=
          rewriteList_append_of_some (hw.ne_nil hq)
            (by rw [if_neg hbegins, if_pos hother, hw.length_eq])
        have hshort : r.length < (w ++ r).length := by
          rw [List.length_append]
          exact Nat.lt_add_of_pos_left (List.length_pos_iff.mpr (hw.ne_nil hq))
        rw [fillFolded_append_other h hw, replaceOriginal_append hq hw, hboth, ih _ hshort r rfl]
      · cases t with
        | nil => rfl
        | cons c t =>
          have horiginal : ¬ beginsOriginal ((c, false) :: fillFolded p a t) q := by
            intro ho
            obtain ⟨w, l, heq, hw⟩ := beginsOriginal_iff.mp ho
            rw [← fillFolded_cons hbegins] at heq
            obtain ⟨r, hr⟩ := exists_of_fillFolded_eq hp ha heq
            exact hother (beginsFolded_iff.mpr ⟨w, r, hr, hw⟩)
          have hboth : replaceBoth p a q b (c :: t) = c :: replaceBoth p a q b t :=
            rewriteList_cons_of_none (by rw [if_neg hbegins, if_neg hother])
          rw [fillFolded_cons hbegins, replaceOriginal_cons horiginal, hboth,
            ih _ (Nat.lt_succ_self _) t rfl]

/-! ## The second pass over everything -/

/-- **What was inserted stays as it is**: an occurrence of `q` that takes in an inserted character,
if there is any, is `b` itself. -/
def Settled (q b : Text) (l : List (Char × Bool)) : Prop :=
  ∀ x w y : List (Char × Bool), l = x ++ (w ++ y) → Text.SameFolded (w.map Prod.fst) q →
    (∃ c ∈ w, c.2 = true) → w.map Prod.fst = b

theorem replaceFolded_append (hq : q ≠ []) {w : Text} (hw : w.SameFolded q) (r : Text) :
    Text.replaceFolded (w ++ r) q b = b ++ Text.replaceFolded r q b := by
  rw [replaceFolded_eq, replaceFolded_eq]
  refine rewriteList_append_of_some (hw.ne_nil hq) ?_
  rw [if_pos (beginsFolded_iff.mpr ⟨w, r, rfl, hw⟩), hw.length_eq]

theorem replaceFolded_cons {c : Char} {t : Text} (h : ¬ beginsFolded (c :: t) q) :
    Text.replaceFolded (c :: t) q b = c :: Text.replaceFolded t q b := by
  rw [replaceFolded_eq, replaceFolded_eq]
  exact rewriteList_cons_of_none (if_neg h)

/-- A marked text is a row of occurrences of a mark and other characters. -/
theorem marked_induction (hq : q ≠ []) {P : List (Char × Bool) → Prop} (nil : P [])
    (cons : ∀ c l, ¬ beginsFolded ((c :: l).map Prod.fst) q → P l → P (c :: l))
    (append : ∀ w l, Text.SameFolded (w.map Prod.fst) q → P l → P (w ++ l))
    (l : List (Char × Bool)) : P l := by
  induction hn : l.length using Nat.strong_induction_on generalizing l with
  | _ n ih =>
    subst hn
    by_cases hbegins : beginsFolded (l.map Prod.fst) q
    · obtain ⟨w, r, hl, hw⟩ := beginsFolded_iff.mp hbegins
      obtain ⟨l₁, l₂, rfl, rfl, rfl⟩ := List.map_eq_append_iff.mp hl
      refine append l₁ l₂ hw (ih _ ?_ l₂ rfl)
      rw [List.length_append]
      refine Nat.lt_add_of_pos_left (List.length_pos_iff.mpr ?_)
      rintro rfl
      exact hw.ne_nil hq rfl
    · cases l with
      | nil => exact nil
      | cons c l => exact cons c l hbegins (ih _ (Nat.lt_succ_self _) l rfl)

/-- **An occurrence behind one at the head** is that one itself, or stands behind it. -/
theorem occurrence_cases (h : NeverInside q q) (hfold : q.map fold = q)
    {w l x w' y : List (Char × Bool)} (hw : Text.SameFolded (w.map Prod.fst) q)
    (hw' : Text.SameFolded (w'.map Prod.fst) q) (heq : w ++ l = x ++ (w' ++ y)) :
    x = [] ∧ w' = w ∨ ∃ x', x = w ++ x' ∧ l = x' ++ (w' ++ y) := by
  have htext := congrArg (List.map Prod.fst) heq
  simp only [List.map_append] at htext
  rcases h.of_sameFolded hfold hfold hw hw' htext with hx | hlength
  · obtain rfl := List.map_eq_nil_iff.mp hx
    rw [List.nil_append] at heq
    have hlengths : w.length = w'.length := by
      have := hw.length_eq.trans hw'.length_eq.symm
      rwa [List.length_map, List.length_map] at this
    exact .inl ⟨rfl, (List.append_inj heq hlengths).1.symm⟩
  · rw [List.length_map, List.length_map] at hlength
    obtain ⟨x', rfl⟩ : w <+: x :=
      List.prefix_of_prefix_length_le ⟨l, heq⟩ (List.prefix_append x _) hlength
    rw [List.append_assoc, List.append_cancel_left_eq] at heq
    exact .inr ⟨x', rfl, heq⟩

/-- An occurrence in which something was inserted is spared. -/
theorem replaceOriginal_append_of_mem (h : NeverInside q q) (hfold : q.map fold = q)
    {w : List (Char × Bool)} (hw : Text.SameFolded (w.map Prod.fst) q)
    (hmem : ∃ c ∈ w, c.2 = true) (l : List (Char × Bool)) :
    replaceOriginal q b (w ++ l) = w.map Prod.fst ++ replaceOriginal q b l := by
  refine rewriteList_append_of_none fun x c y heq => if_neg fun hbegins => ?_
  obtain ⟨u, r, hhead, hu⟩ := beginsOriginal_iff.mp hbegins
  have hall : w ++ l = x ++ (u.map (·, false) ++ r) := by
    rw [← hhead, heq, List.append_assoc, List.cons_append]
  rcases occurrence_cases h hfold hw (by rwa [map_fst_map_pair]) hall with
    ⟨-, rfl⟩ | ⟨x', hx, -⟩
  · obtain ⟨d, hd, htrue⟩ := hmem
    obtain ⟨e, -, rfl⟩ := List.mem_map.mp hd
    cases htrue
  · -- it begins inside the occurrence
    have hlength := congrArg List.length heq
    rw [hx, List.length_append, List.length_append, List.length_cons] at hlength
    omega

/-- Any other one is replaced. -/
theorem replaceOriginal_append_of_not_mem (hq : q ≠ []) {w : List (Char × Bool)}
    (hw : Text.SameFolded (w.map Prod.fst) q) (hmem : ¬ ∃ c ∈ w, c.2 = true)
    (l : List (Char × Bool)) : replaceOriginal q b (w ++ l) = b ++ replaceOriginal q b l := by
  rw [← map_pair_map_fst hmem]
  exact replaceOriginal_append hq hw l

theorem settled_cons {c : Char × Bool} {l : List (Char × Bool)}
    (h : ¬ beginsFolded ((c :: l).map Prod.fst) q) : Settled q b (c :: l) ↔ Settled q b l := by
  constructor
  · intro hs x w y hl
    exact hs (c :: x) w y (congrArg (c :: ·) hl)
  · intro hs x w y hl hw
    cases x with
    | nil =>
      rw [List.nil_append] at hl
      refine absurd (beginsFolded_iff.mpr ⟨w.map Prod.fst, y.map Prod.fst, ?_, hw⟩) h
      rw [hl, List.map_append]
    | cons d x => exact hs x w y (List.cons.inj hl).2 hw

theorem settled_append (h : NeverInside q q) (hfold : q.map fold = q) {w l : List (Char × Bool)}
    (hw : Text.SameFolded (w.map Prod.fst) q) :
    Settled q b (w ++ l) ↔ ((∃ c ∈ w, c.2 = true) → w.map Prod.fst = b) ∧ Settled q b l := by
  constructor
  · intro hs
    refine ⟨hs [] w l rfl hw, fun x w' y hl => hs (w ++ x) w' y ?_⟩
    rw [hl, List.append_assoc]
  · rintro ⟨hhead, hs⟩ x w' y hl hw'
    rcases occurrence_cases h hfold hw hw' hl with ⟨-, rfl⟩ | ⟨x', -, hl⟩
    · exact hhead
    · exact hs x' w' y hl hw'

/-- The two passes over a marked text differ in length by what they put in place of the occurrences
that one of them spares. -/
theorem exists_length_eq (h : NeverInside q q) (hfold : q.map fold = q) (hq : q ≠ [])
    (l : List (Char × Bool)) :
    ∃ n, (Text.replaceFolded (l.map Prod.fst) q b).length + n * q.length =
      (replaceOriginal q b l).length + n * b.length := by
  induction l using marked_induction hq with
  | nil =>
    refine ⟨0, ?_⟩
    rw [Nat.zero_mul, Nat.zero_mul]
    rfl
  | cons c l hbegins ih =>
    obtain ⟨n, hn⟩ := ih
    have horiginal : ¬ beginsOriginal (c :: l) q := fun ho =>
      hbegins (Bool.and_eq_true_iff.mp ho).2
    refine ⟨n, ?_⟩
    rw [List.map_cons, replaceFolded_cons hbegins, replaceOriginal_cons horiginal,
      List.length_cons, List.length_cons]
    omega
  | append w l hw ih =>
    obtain ⟨n, hn⟩ := ih
    rw [List.map_append, replaceFolded_append hq hw]
    by_cases hmem : ∃ c ∈ w, c.2 = true
    · refine ⟨n + 1, ?_⟩
      rw [replaceOriginal_append_of_mem h hfold hw hmem, List.length_append, List.length_append,
        hw.length_eq, Nat.succ_mul, Nat.succ_mul]
      omega
    · refine ⟨n, ?_⟩
      rw [replaceOriginal_append_of_not_mem hq hw hmem, List.length_append, List.length_append]
      omega

/-- **Sparing what was inserted makes no difference** exactly when it stays as it is. -/
theorem replaceFolded_eq_replaceOriginal_iff (h : NeverInside q q) (hfold : q.map fold = q)
    (hq : q ≠ []) (l : List (Char × Bool)) :
    Text.replaceFolded (l.map Prod.fst) q b = replaceOriginal q b l ↔ Settled q b l := by
  induction l using marked_induction hq with
  | nil =>
    refine iff_of_true rfl fun x w y hl _ hmem => ?_
    obtain ⟨c, hc, -⟩ := hmem
    have : c ∈ ([] : List (Char × Bool)) := hl ▸ List.mem_append_right x (List.mem_append_left y hc)
    cases this
  | cons c l hbegins ih =>
    have horiginal : ¬ beginsOriginal (c :: l) q := fun ho =>
      hbegins (Bool.and_eq_true_iff.mp ho).2
    rw [List.map_cons, replaceFolded_cons hbegins, replaceOriginal_cons horiginal,
      settled_cons hbegins, List.cons_inj_right, ih]
  | append w l hw ih =>
    rw [List.map_append, replaceFolded_append hq hw, settled_append h hfold hw, ← ih]
    by_cases hmem : ∃ c ∈ w, c.2 = true
    · rw [replaceOriginal_append_of_mem h hfold hw hmem]
      simp only [hmem, forall_const]
      constructor
      · intro heq
        -- the passes over the rest can make up for no difference in length
        obtain ⟨n, hn⟩ := exists_length_eq (b := b) h hfold hq l
        have hlength := congrArg List.length heq
        rw [List.length_append, List.length_append, hw.length_eq] at hlength
        have hb : b.length = q.length := by
          refine Nat.eq_of_mul_eq_mul_left n.succ_pos ?_
          rw [Nat.succ_mul, Nat.succ_mul]
          omega
        obtain ⟨hwb, hrest⟩ := List.append_inj heq (hb.trans hw.length_eq.symm)
        exact ⟨hwb.symm, hrest⟩
      · rintro ⟨rfl, hrest⟩
        rw [hrest]
    · rw [replaceOriginal_append_of_not_mem hq hw hmem, List.append_cancel_left_eq]
      exact ⟨fun heq => ⟨fun hm => absurd hm hmem, heq⟩, And.right⟩

/-! ## Both names -/

/-- **One mark after the other** is both at once exactly when what the first pass put in stays as it
is. -/
theorem replaceFolded_replaceFolded_eq_iff (h : MarksApart p q) (ha : a ≠ []) (t : Text) :
    (t.replaceFolded p a).replaceFolded q b = replaceBoth p a q b t ↔
      Settled q b (fillFolded p a t) := by
  rw [← map_fst_fillFolded p a t, ← replaceOriginal_fillFolded h ha]
  exact replaceFolded_eq_replaceOriginal_iff h.right_right h.fold_right h.ne_nil_right _

theorem insertName_some {mark name : Text} (h : name ≠ []) (t : Text) :
    insertName t mark (some name) = t.replaceFolded mark name := by
  obtain ⟨c, name, rfl⟩ := List.exists_cons_of_ne_nil h
  rfl

/-- **When the names are put in as they are.** Putting in one name after the other, in either order,
does the same as putting in both at once exactly when every placeholder of the second name that
takes in a character of the first is the second name itself. -/
theorem insertNames_eq_atOnce_iff {character user : Text} (hc : character ≠ []) (hu : user ≠ [])
    (t : Text) :
    (insertNames t (some character) (some user) = insertNamesAtOnce t character user ↔
        Settled userMark user (fillFolded characterMark character t)) ∧
      (insertName (insertName t userMark (some user)) characterMark (some character) =
          insertNamesAtOnce t character user ↔
        Settled characterMark character (fillFolded userMark user t)) := by
  rw [insertNames, insertName_some hc, insertName_some hu, insertName_some hu, insertName_some hc,
    insertNamesAtOnce]
  refine ⟨replaceFolded_replaceFolded_eq_iff marksApart hc t, ?_⟩
  rw [replaceBoth_comm marksApart]
  exact replaceFolded_replaceFolded_eq_iff marksApart.symm hu t

/-- The placeholder of the character as the name of the user: put in last it stays, put in first it
is filled in. -/
theorem insertNames_eq_atOnce_iff_mark :
    let t : Text := "\x7b\x7bUser\x7d\x7d: \x7b\x7bCHAR\x7d\x7d?"
    insertNamesAtOnce t "Aria" characterMark = characterMark ++ ": Aria?".toList ∧
      Settled userMark characterMark (fillFolded characterMark "Aria" t) ∧
      ¬ Settled characterMark "Aria" (fillFolded userMark characterMark t) := by
  intro t
  have haria : ("Aria" : Text) ≠ [] := by decide
  have hmark : characterMark ≠ [] := by decide
  obtain ⟨hfirst, hsecond⟩ := insertNames_eq_atOnce_iff haria hmark t
  refine ⟨by decide +kernel, hfirst.mp (by decide +kernel), fun hs => ?_⟩
  exact absurd (hsecond.mpr hs) (by decide +kernel)

/-- **A name may be filled in itself**: a placeholder of the user in the name of the character, and
one that the name makes with the braces around it. -/
theorem insertNames_ne_atOnce :
    let braced : Text := ['\x7b', '\x7b'] ++ characterMark ++ ['\x7d', '\x7d']
    insertNames characterMark (some userMark) (some "Jordan") = "Jordan".toList ∧
      insertNamesAtOnce characterMark userMark "Jordan" = userMark ∧
      insertNames braced (some "user") (some "Jordan") = "Jordan".toList ∧
      insertNamesAtOnce braced "user" "Jordan" = userMark ∧
      ¬ ∀ t character user : Text, character ≠ [] → user ≠ [] →
        insertNames t (some character) (some user) = insertNamesAtOnce t character user := by
  intro braced
  refine ⟨by decide +kernel, by decide +kernel, by decide +kernel, by decide +kernel,
    fun hall => ?_⟩
  exact absurd (hall characterMark userMark "Jordan" (by decide) (by decide)) (by decide +kernel)

end Roleplay
