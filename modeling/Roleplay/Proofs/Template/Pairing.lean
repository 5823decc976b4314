import Roleplay.Proofs.Template.Evaluation

/-!
# Every template has an outline

Any text is a template, also one whose tags are misspelt, interleaved or left open. The first pass
pairs an opener with the nearest closing tag of its kind behind it, and leaves everything else as it
is. So every text is made up of texts and blocks in one way, and the pass evaluates that outline:
it deletes the tags of the blocks and the bodies that are not kept, and adds and moves nothing.

That a text comes out as it is means that it has no blocks. For this no opener may be passed over
that is closed anywhere behind it. The pass steps over marks in three ways: over one that is no
opener, over an opener that nothing closes, and over the whole block. In the first two no opener
begins within what is stepped over, since marks have no characters in common.

## Main definitions

* `Template.Blocked t before op behind`: an opener of `t` with a closing tag of its kind behind it
* `Template.Outline.Paired`: openers are paired with the nearest closing tags, and none is left
* `Template.IsOutlineOf o t`: the pass evaluates the outline `o` of `t`

## Main results

* `Template.exists_opener`: what is read as an opener is one
* `Template.Outline.eval_sublist`: evaluation only deletes
* `Template.Outline.Paired.eval_eq_written_iff`: it deletes something wherever there is a block
* `Template.exists_outline`: every text has an outline that the pass evaluates
* `Template.resolveWith_outline`: what the pass deletes, and when it deletes nothing
-/

namespace Roleplay.Template

/-! ## Openers -/

theorem BlockKind.eq_word_of_ofWord? {w : Text} {kind : BlockKind}
    (h : BlockKind.ofWord? w = some kind) : w = kind.word := by
  rw [ofWord?] at h
  split at h
  · next hw =>
    cases h
    exact hw
  · split at h
    · next hw =>
      cases h
      exact hw
    · cases h

/-- **What is read as an opener is one.** -/
theorem exists_opener {tag name : Text} {kind : BlockKind} (h : opener? tag = some (kind, name)) :
    ∃ op : Opener, op.tag = tag ∧ op.kind = kind ∧ op.name = name := by
  rw [opener?] at h
  split at h
  · cases h
  · next w rest hword =>
    split at h
    · cases h
    · next k hkind =>
      split at h
      · next hname =>
        cases h
        -- the blanks around the word and those around the name make up the rest of the tag
        obtain ⟨s, b, hs, hb, hne, rfl⟩ := Text.exists_of_firstWord?_eq_some hword
        obtain ⟨l, r, hl, hr, hrest⟩ := Text.exists_eq_append_strip rest
        rw [isName, Bool.and_eq_true, Bool.not_eq_true', List.isEmpty_eq_false_iff] at hname
        refine ⟨⟨kind, rest.strip, s, b ++ l, r, hname.1, by simpa [Text.Only] using hname.2, ?_, ?_⟩,
          ?_, rfl, rfl⟩
        · exact List.append_ne_nil_of_left_ne_nil hne l
        · simp only [Text.Only, List.mem_append] at hs hb hl hr ⊢
          rintro c ((hc | hc | hc) | hc)
          · exact hs c hc
          · exact hb c hc
          · exact hl c hc
          · exact hr c hc
        · conv_rhs => rw [hrest]
          simp only [Opener.tag, BlockKind.eq_word_of_ofWord? hkind, List.append_assoc]
      · cases h

/-- **An opener that is closed**: a closing tag of its kind stands anywhere behind it. -/
structure Blocked (t before : Text) (op : Opener) (behind : Text) : Prop where
  eq : t = before ++ (op.written ++ behind)
  closed : op.kind.closingTag <:+: behind

/-- A text with an opener that is closed. -/
def HasBlock (t : Text) : Prop :=
  ∃ before op behind, Blocked t before op behind

/-- No opener that is closed begins within the first of two texts. -/
def OpensBehind (u t : Text) : Prop :=
  ∀ {before op behind}, Blocked (u ++ t) before op behind → u <+: before

section Blocked

variable {t u before before' after behind tag rest : Text} {op : Opener} {kind : BlockKind}

/-- An opener behind a piece of the text is one of what follows the piece. -/
theorem Blocked.of_append (h : Blocked (u ++ t) (u ++ before) op behind) :
    Blocked t before op behind := by
  refine ⟨?_, h.closed⟩
  have := h.eq
  rwa [List.append_assoc, List.append_cancel_left_eq] at this

theorem Blocked.eq_mark (h : Blocked t before op behind) :
    t = before ++ (blockMark ++ (op.tag ++ (closing ++ behind))) := by
  simpa only [Opener.written, List.append_assoc] using h.eq

/-- An opener stands at the first opening mark or behind it. -/
theorem Blocked.exists_of_cut?_blockMark (h : Blocked t before op behind)
    (hm : t.cut? blockMark = some (before', after)) :
    ∃ c, before = before' ++ c ∧ Blocked (blockMark ++ after) c op behind := by
  obtain ⟨c, hbefore, hafter⟩ := Text.exists_of_cut?_eq_some hm h.eq_mark
  refine ⟨c, hbefore, ?_, h.closed⟩
  simpa only [Opener.written, List.append_assoc] using hafter

/-- An opener at the first mark has what is between it and the next closing braces. -/
theorem Blocked.cut?_of_nil (h : Blocked (blockMark ++ after) [] op behind) :
    after.cut? closing = some (op.tag, behind) := by
  have heq := h.eq_mark
  rw [List.nil_append, List.append_cancel_left_eq] at heq
  rw [heq]
  exact cut?_closing op.brace_notMem_tag.2 behind

/-- An opener behind the head of a mark begins behind its end. -/
theorem Blocked.isPrefix_of_isMark {m : Text} (hm : IsMark m) (h : Blocked (m ++ t) before op behind)
    (hne : before ≠ []) : m <+: before := by
  refine isPrefix_of_isPrefix_append_opening hm hne
    (z := '#' :: (op.tag ++ (closing ++ behind))) ?_
  have heq := h.eq_mark
  simp only [blockMark, List.append_assoc, List.singleton_append] at heq
  exact heq ▸ List.prefix_append m t

/-- The closing braces of an opener are behind the first opening mark. -/
theorem Blocked.closing_isInfix (h : Blocked (blockMark ++ after) before op behind) :
    closing <:+: after :=
  List.IsInfix.trans ⟨op.tag, behind, List.append_assoc _ _ _⟩
    (Text.isSuffix_of_append_eq h.eq_mark).isInfix

theorem OpensBehind.append (hu : OpensBehind u (before ++ t)) (h : OpensBehind before t) :
    OpensBehind (u ++ before) t := by
  intro a op b hblocked
  rw [List.append_assoc] at hblocked
  obtain ⟨c, rfl⟩ := hu hblocked
  rw [List.prefix_append_right_inj]
  exact h hblocked.of_append

theorem OpensBehind.not_hasBlock (hu : OpensBehind u t) (h : ¬ HasBlock t) :
    ¬ HasBlock (u ++ t) := by
  rintro ⟨a, op, b, hblocked⟩
  obtain ⟨c, rfl⟩ := hu hblocked
  exact h ⟨c, op, b, hblocked.of_append⟩

end Blocked

/-! ## Outlines of any text -/

namespace Outline

/-- **Openers paired with closing tags**: each with the nearest one of its kind. None is left that
could be paired, neither before a block nor behind all of them. -/
def Paired : Outline → Prop
  | text t => ¬ HasBlock t
  | block before op body rest =>
    OpensBehind before (op.written ++ (body.written ++ (op.kind.closingTag ++ rest.written))) ∧
      ¬ op.kind.closingTag <:+: body.written ∧ body.Paired ∧ rest.Paired

/-- An outline with a text put before it. -/
def prepend (u : Text) : Outline → Outline
  | text t => text (u ++ t)
  | block before op body rest => block (u ++ before) op body rest

variable {u : Text} {o : Outline} {vars : Variables}

@[simp] theorem written_prepend (u : Text) (o : Outline) : (o.prepend u).written = u ++ o.written := by
  cases o with
  | text t => rfl
  | block before op body rest => simp only [prepend, written, List.append_assoc]

@[simp] theorem eval_prepend (vars : Variables) (u : Text) (o : Outline) :
    (o.prepend u).eval vars = u ++ o.eval vars := by
  cases o with
  | text t => rfl
  | block before op body rest => simp only [prepend, eval, List.append_assoc]

theorem Paired.prepend (h : o.Paired) (hu : OpensBehind u o.written) : (o.prepend u).Paired := by
  cases o with
  | text t => exact hu.not_hasBlock h
  | block before op body rest =>
    obtain ⟨hbefore, hbody, hrest⟩ := h
    exact ⟨hu.append hbefore, hbody, hrest⟩

/-- **Evaluation only deletes.** -/
theorem eval_sublist (vars : Variables) (o : Outline) : (o.eval vars).Sublist o.written := by
  induction o with
  | text t => exact List.Sublist.refl t
  | block before op body rest ihb ihr =>
    have hbody : (if op.Keeps vars then body.eval vars else []).Sublist
        (op.written ++ (body.written ++ op.kind.closingTag)) := by
      split
      · exact (ihb.trans (List.sublist_append_left _ _)).trans (List.sublist_append_right _ _)
      · exact List.nil_sublist _
    have htail := hbody.append ihr
    simp only [List.append_assoc] at htail
    exact (List.Sublist.refl before).append htail

/-- Where there is a block, its tags are deleted. -/
theorem length_eval_block_lt (vars : Variables) (before : Text) (op : Opener) (body rest : Outline) :
    ((block before op body rest).eval vars).length <
      (block before op body rest).written.length := by
  have hbody : (if op.Keeps vars then body.eval vars else []).length ≤ body.written.length := by
    split
    · exact (body.eval_sublist vars).length_le
    · exact Nat.zero_le _
  have hrest := (rest.eval_sublist vars).length_le
  have hopener : 0 < op.written.length := by
    simp [Opener.written, blockMark, opening]
  simp only [eval, written, List.length_append]
  omega

/-- **Something is deleted wherever there is a block.** -/
theorem Paired.eval_eq_written_iff (h : o.Paired) (vars : Variables) :
    o.eval vars = o.written ↔ ¬ HasBlock o.written := by
  cases o with
  | text t => exact iff_of_true rfl h
  | block before op body rest =>
    apply iff_of_false
    · intro heq
      have hlt := length_eval_block_lt vars before op body rest
      rw [heq] at hlt
      exact Nat.lt_irrefl _ hlt
    · intro hnone
      exact hnone ⟨before, op, _, rfl, ⟨body.written, rest.written, List.append_assoc _ _ _⟩⟩

end Outline

/-! ## The pass -/

section Resolve

variable {holds : Text → Bool} {t before after tag rest name : Text} {kind : BlockKind}

theorem resolve_of_unclosed (hm : t.cut? blockMark = some (before, after))
    (ht : after.cut? closing = none) : resolve holds t = t := by
  rw [resolve]
  split
  · rfl
  · next h =>
    obtain ⟨rfl, rfl⟩ := Prod.mk.inj (Option.some.inj (hm.symm.trans h))
    split
    · rfl
    · next h => rw [ht] at h; cases h

/-- A mark that begins no opener is stepped over. -/
theorem resolve_of_opener?_eq_none (hm : t.cut? blockMark = some (before, after))
    (ht : after.cut? closing = some (tag, rest)) (ho : opener? tag = none) :
    resolve holds t = before ++ opening ++ resolve holds ('#' :: after) := by
  rw [resolve]
  split
  · next h => rw [hm] at h; cases h
  · next h =>
    obtain ⟨rfl, rfl⟩ := Prod.mk.inj (Option.some.inj (hm.symm.trans h))
    split
    · next h => rw [ht] at h; cases h
    · next h =>
      obtain ⟨rfl, rfl⟩ := Prod.mk.inj (Option.some.inj (ht.symm.trans h))
      rw [ho]

/-- An opener that nothing closes is stepped over. -/
theorem resolve_of_unterminated (hm : t.cut? blockMark = some (before, after))
    (ht : after.cut? closing = some (tag, rest)) (ho : opener? tag = some (kind, name))
    (hc : rest.cut? kind.closingTag = none) :
    resolve holds t = before ++ blockMark ++ tag ++ closing ++ resolve holds rest := by
  rw [resolve]
  split
  · next h => rw [hm] at h; cases h
  · next h =>
    obtain ⟨rfl, rfl⟩ := Prod.mk.inj (Option.some.inj (hm.symm.trans h))
    split
    · next h => rw [ht] at h; cases h
    · next h =>
      obtain ⟨rfl, rfl⟩ := Prod.mk.inj (Option.some.inj (ht.symm.trans h))
      rw [ho]
      simp only
      split
      · rfl
      · next h => rw [hc] at h; cases h

/-- No opener begins within a mark that begins none. -/
theorem opensBehind_of_opener?_eq_none (hm : t.cut? blockMark = some (before, after))
    (ht : after.cut? closing = some (tag, rest)) (ho : opener? tag = none) :
    OpensBehind (before ++ opening) ('#' :: after) := by
  intro a op b h
  have htext : t = before ++ opening ++ '#' :: after := by
    rw [Text.eq_of_cut?_eq_some hm, blockMark, List.append_assoc, List.append_assoc,
      List.append_assoc]
    rfl
  obtain ⟨c, rfl, hblocked⟩ := (htext ▸ h).exists_of_cut?_blockMark hm
  rw [List.prefix_append_right_inj]
  by_cases hc : c = []
  · subst hc
    cases ht.symm.trans hblocked.cut?_of_nil
    rw [op.opener?_tag] at ho
    cases ho
  · exact (List.prefix_append opening ['#']).trans (hblocked.isPrefix_of_isMark isMark_blockMark hc)

/-- No opener that is closed begins within one that is not. -/
theorem opensBehind_of_unterminated (hm : t.cut? blockMark = some (before, after))
    (ht : after.cut? closing = some (tag, rest)) (ho : opener? tag = some (kind, name))
    (hc : rest.cut? kind.closingTag = none) :
    OpensBehind (before ++ blockMark ++ tag ++ closing) rest := by
  obtain ⟨own, rfl, rfl, rfl⟩ := exists_opener ho
  have hafter := Text.eq_of_cut?_eq_some ht
  intro a op b h
  have htext : t = before ++ blockMark ++ own.tag ++ closing ++ rest := by
    rw [Text.eq_of_cut?_eq_some hm, hafter]
    simp only [List.append_assoc]
  obtain ⟨c, rfl, hblocked⟩ := (htext ▸ h).exists_of_cut?_blockMark hm
  simp only [List.append_assoc]
  rw [List.prefix_append_right_inj]
  by_cases hfirst : c = []
  · -- the opener itself is closed by nothing
    subst hfirst
    obtain ⟨htag, rfl⟩ := Prod.mk.inj (Option.some.inj (ht.symm.trans hblocked.cut?_of_nil))
    have hread := op.opener?_tag
    rw [← htag, ho] at hread
    obtain ⟨hkind, -⟩ := Prod.mk.inj (Option.some.inj hread)
    exact absurd (hkind ▸ hblocked.closed) (Text.cut?_eq_none_iff.mp hc)
  · have heq : blockMark ++ after = own.written ++ rest := by
      rw [hafter]
      simp only [Opener.written, List.append_assoc]
    exact (heq ▸ hblocked).isPrefix_of_isMark own.isMark_written hfirst

end Resolve

/-- **The outline of a text**, which the pass evaluates. -/
def IsOutlineOf (o : Outline) (t : Text) : Prop :=
  o.written = t ∧ o.Paired ∧ ∀ vars, resolveWith vars t = o.eval vars

theorem isOutlineOf_text {t : Text} (h : ¬ HasBlock t) (hself : ∀ vars, resolveWith vars t = t) :
    IsOutlineOf (.text t) t :=
  ⟨rfl, h, hself⟩

/-- A piece in which no block begins, and which the pass steps over, belongs to the first text. -/
theorem IsOutlineOf.prepend {o : Outline} {u t : Text} (h : IsOutlineOf o t)
    (hu : OpensBehind u t) (hstep : ∀ vars, resolveWith vars (u ++ t) = u ++ resolveWith vars t) :
    IsOutlineOf (o.prepend u) (u ++ t) := by
  obtain ⟨rfl, hpaired, heval⟩ := h
  refine ⟨o.written_prepend u, hpaired.prepend hu, fun vars => ?_⟩
  rw [hstep, heval, Outline.eval_prepend]

/-- **A block that the pass finds** is one of the outline. -/
theorem IsOutlineOf.block {o o' : Outline} {t before after tag rest body rest' name : Text}
    {kind : BlockKind} (hm : t.cut? blockMark = some (before, after))
    (ht : after.cut? closing = some (tag, rest)) (ho : opener? tag = some (kind, name))
    (hc : rest.cut? kind.closingTag = some (body, rest')) (h : IsOutlineOf o body)
    (h' : IsOutlineOf o' rest') : ∃ op, IsOutlineOf (.block before op o o') t := by
  obtain ⟨rfl, hpaired, heval⟩ := h
  obtain ⟨rfl, hpaired', heval'⟩ := h'
  obtain ⟨op, rfl, rfl, rfl⟩ := exists_opener ho
  have hself : (Outline.block before op o o').written = t := by
    rw [Text.eq_of_cut?_eq_some hm, Text.eq_of_cut?_eq_some ht, Text.eq_of_cut?_eq_some hc]
    simp only [Outline.written, Opener.written, List.append_assoc]
  refine ⟨op, hself, ⟨?_, ?_, hpaired, hpaired'⟩, fun vars => ?_⟩
  · intro a op' b hblocked
    change Blocked (Outline.block before op o o').written a op' b at hblocked
    rw [hself] at hblocked
    obtain ⟨c, rfl, -⟩ := hblocked.exists_of_cut?_blockMark hm
    exact List.prefix_append before c
  · exact Text.not_isInfix_of_cut?_eq_some (by simp [BlockKind.closingTag, opening]) hc
  · rw [resolveWith, resolve_block hm ht ho hc, Outline.eval]
    simp only [Opener.keeps_iff, ← heval, ← heval', resolveWith]

theorem not_hasBlock_of_unmarked {t : Text} (hm : t.cut? blockMark = none) : ¬ HasBlock t := by
  rintro ⟨a, op, b, hblocked⟩
  have hin : blockMark <:+: t := ⟨a, op.tag ++ (closing ++ b), by
    rw [List.append_assoc, ← hblocked.eq_mark]⟩
  exact Text.cut?_eq_none_iff.mp hm hin

theorem not_hasBlock_of_unclosed {t before after : Text}
    (hm : t.cut? blockMark = some (before, after)) (ht : after.cut? closing = none) :
    ¬ HasBlock t := by
  rintro ⟨a, op, b, hblocked⟩
  obtain ⟨c, -, hafter⟩ := hblocked.exists_of_cut?_blockMark hm
  exact Text.cut?_eq_none_iff.mp ht hafter.closing_isInfix

/-- **Every text has an outline.** -/
theorem exists_outline (t : Text) : ∃ o, IsOutlineOf o t := by
  -- on the length, since the body and what follows the block are both read again
  induction h : t.length using Nat.strong_induction_on generalizing t with
  | _ n ih =>
  subst h
  cases hm : t.cut? blockMark with
  | none =>
    exact ⟨.text t, isOutlineOf_text (not_hasBlock_of_unmarked hm)
      fun _ => resolve_of_cut?_eq_none hm⟩
  | some p =>
    obtain ⟨before, after⟩ := p
    have htext := Text.eq_of_cut?_eq_some hm
    have hlength := congrArg List.length htext
    simp only [blockMark, opening, List.length_append, List.length_cons, List.length_nil] at hlength
    cases ht : after.cut? closing with
    | none =>
      exact ⟨.text t, isOutlineOf_text (not_hasBlock_of_unclosed hm ht)
        fun _ => resolve_of_unclosed hm ht⟩
    | some p =>
      obtain ⟨tag, rest⟩ := p
      have hafter := Text.eq_of_cut?_eq_some ht
      have hlength' := congrArg List.length hafter
      simp only [List.length_append] at hlength'
      cases ho : opener? tag with
      | none =>
        have hstep : t = before ++ opening ++ '#' :: after := by
          rw [htext, blockMark]
          simp only [List.append_assoc, List.singleton_append]
        obtain ⟨o, houtline⟩ := ih _ (by simp only [List.length_cons]; omega) ('#' :: after) rfl
        refine ⟨_, hstep ▸ houtline.prepend (opensBehind_of_opener?_eq_none hm ht ho) ?_⟩
        exact fun _ => hstep ▸ resolve_of_opener?_eq_none hm ht ho
      | some p =>
        obtain ⟨kind, name⟩ := p
        cases hc : rest.cut? kind.closingTag with
        | none =>
          have hstep : t = before ++ blockMark ++ tag ++ closing ++ rest := by
            rw [htext, hafter]
            simp only [List.append_assoc]
          obtain ⟨o, houtline⟩ := ih _ (by omega) rest rfl
          refine ⟨_, hstep ▸ houtline.prepend (opensBehind_of_unterminated hm ht ho hc) ?_⟩
          exact fun _ => hstep ▸ resolve_of_unterminated hm ht ho hc
        | some p =>
          obtain ⟨body, rest'⟩ := p
          have hlength'' := congrArg List.length (Text.eq_of_cut?_eq_some hc)
          simp only [List.length_append] at hlength''
          obtain ⟨o, hbody⟩ := ih _ (by omega) body rfl
          obtain ⟨o', hrest⟩ := ih _ (by omega) rest' rfl
          obtain ⟨op, houtline⟩ := hbody.block hm ht ho hc hrest
          exact ⟨_, houtline⟩

/-- **What the first pass deletes**, of any text. The text is made up of texts and blocks, in each
of which an opener is paired with the nearest closing tag of its kind, and the pass evaluates it: it
deletes the two tags of every block, and the body if that is not kept, and nothing else. It deletes
nothing just when no opener is closed anywhere behind it. -/
theorem resolveWith_outline (t : Text) :
    ∃ o : Outline, o.written = t ∧ o.Paired ∧
      ∀ vars, resolveWith vars t = o.eval vars ∧ (resolveWith vars t).Sublist t ∧
        (resolveWith vars t = t ↔ ¬ HasBlock t) := by
  obtain ⟨o, rfl, hpaired, heval⟩ := exists_outline t
  refine ⟨o, rfl, hpaired, fun vars => ?_⟩
  rw [heval]
  exact ⟨rfl, o.eval_sublist vars, hpaired.eval_eq_written_iff vars⟩

end Roleplay.Template
