import Roleplay.Proofs.Text.Occurrence
import Roleplay.Proofs.Text.Words
import Roleplay.Template.Placeholder

/-!
# The first pass evaluates blocks

A template that is written from texts and blocks is resolved to what the blocks mean: the texts in
their order, and between them the bodies of the blocks that are kept. The pass itself only looks for
marks in a text, so the work is to show that it finds the marks that were written and no others. A
mark begins with two opening braces and has no further one, so none begins within another, and
none begins in a text and ends in the mark after it.

## Main definitions

* `Template.Variables.Truthy`: a variable is there and neither null, false nor empty
* `Template.Opener`: the opener of a block, with any blanks in it
* `Template.Outline`: a template as texts and blocks
* `Template.Outline.written`, `Template.Outline.eval`: its text and its meaning
* `Template.Outline.WellFormed`: no text holds a mark, and no block one of its own kind

## Main results

* `Template.Outline.closingTag_not_isInfix`: where a closing tag does not occur
* `Template.Outline.resolveWith_written`: the first pass evaluates
-/

namespace Roleplay.Template

/-! ## Variables that are set -/

/-- **A variable that is there** and neither null, false nor empty. -/
def Variables.Truthy (vars : Variables) (name : Text) : Prop :=
  ∃ v, Entries.get? vars name = some v ∧ v ≠ .null ∧ v ≠ .bool false ∧ v ≠ .str []

theorem Variables.isSet_iff {vars : Variables} {name : Text} :
    vars.isSet name = true ↔ vars.Truthy name := by
  unfold Variables.isSet Variables.Truthy Members.get
  cases Entries.get? vars name with
  | none => simp [Template.isSet]
  | some v =>
    cases v with
    | bool b => simp [Template.isSet]
    | str s => simp [Template.isSet]
    | _ => simp [Template.isSet]

instance (vars : Variables) (name : Text) : Decidable (vars.Truthy name) :=
  decidable_of_iff _ Variables.isSet_iff

/-! ## Templates as texts and blocks -/

/-- **The opener of a block**: its kind and name, with the blanks before, between and behind
them. -/
structure Opener where
  kind : BlockKind
  name : Text
  before : Text
  between : Text
  behind : Text
  name_ne : name ≠ []
  name_word : name.Only Text.isWord
  between_ne : between ≠ []
  blank : Text.Only Text.isBlank (before ++ between ++ behind)

/-- What an opener has between its mark and its closing braces. -/
def Opener.tag (o : Opener) : Text :=
  o.before ++ (o.kind.word ++ (o.between ++ (o.name ++ o.behind)))

/-- An opener in a template. -/
def Opener.written (o : Opener) : Text :=
  blockMark ++ (o.tag ++ closing)

/-- Whether the body behind an opener is kept. -/
def Opener.Keeps (o : Opener) (vars : Variables) : Prop :=
  match o.kind with
  | .whenSet => vars.Truthy o.name
  | .unlessSet => ¬ vars.Truthy o.name

instance (o : Opener) (vars : Variables) : Decidable (o.Keeps vars) := by
  unfold Opener.Keeps
  split <;> infer_instance

/-- **A template as texts and blocks**: a text, or a text before a block with its body and what
follows the block. -/
inductive Outline
  | text (t : Text)
  | block (before : Text) (opener : Opener) (body rest : Outline)

/-- A text without an opening mark and without a closing tag. -/
def IsPlain (t : Text) : Prop :=
  ¬ blockMark <:+: t ∧ ¬ BlockKind.whenSet.closingTag <:+: t ∧
    ¬ BlockKind.unlessSet.closingTag <:+: t

instance (t : Text) : Decidable (IsPlain t) :=
  inferInstanceAs (Decidable (_ ∧ _ ∧ _))

theorem IsPlain.closingTag {t : Text} (h : IsPlain t) (kind : BlockKind) :
    ¬ kind.closingTag <:+: t := by
  cases kind with
  | whenSet => exact h.2.1
  | unlessSet => exact h.2.2

namespace Outline

/-- The template. -/
def written : Outline → Text
  | text t => t
  | block before opener body rest =>
    before ++ (opener.written ++ (body.written ++ (opener.kind.closingTag ++ rest.written)))

/-- **The meaning**: the texts, and the bodies that are kept. -/
def eval (vars : Variables) : Outline → Text
  | text t => t
  | block before opener body rest =>
    before ++ ((if opener.Keeps vars then body.eval vars else []) ++ rest.eval vars)

/-- Whether there is a block of a kind, at any depth. -/
def Has (kind : BlockKind) : Outline → Prop
  | text _ => False
  | block _ opener body rest => opener.kind = kind ∨ body.Has kind ∨ rest.Has kind

/-- **Well-formed templates**: no text holds an opening mark or a closing tag, and no block holds
one of its own kind. -/
def WellFormed : Outline → Prop
  | text t => IsPlain t
  | block before opener body rest =>
    IsPlain before ∧ ¬ body.Has opener.kind ∧ body.WellFormed ∧ rest.WellFormed

instance decidableHas (kind : BlockKind) : (o : Outline) → Decidable (o.Has kind)
  | text _ => inferInstanceAs (Decidable False)
  | block _ _ body rest =>
    have := decidableHas kind body
    have := decidableHas kind rest
    inferInstanceAs (Decidable (_ ∨ _ ∨ _))

instance decidableWellFormed : (o : Outline) → Decidable o.WellFormed
  | text t => inferInstanceAs (Decidable (IsPlain t))
  | block _ _ body rest =>
    have := decidableWellFormed body
    have := decidableWellFormed rest
    inferInstanceAs (Decidable (_ ∧ _ ∧ _ ∧ _))

end Outline

/-! ## Marks

A mark is two opening braces and something behind them that has no further one. -/

/-- Two opening braces and something without one. -/
def IsMark (m : Text) : Prop :=
  ∃ r, r ≠ [] ∧ '\x7b' ∉ r ∧ m = opening ++ r

theorem isMark_blockMark : IsMark blockMark :=
  ⟨['#'], by decide, by decide, rfl⟩

theorem isMark_closingTag (kind : BlockKind) : IsMark kind.closingTag := by
  cases kind with
  | whenSet => exact ⟨_, by decide, by decide, rfl⟩
  | unlessSet => exact ⟨_, by decide, by decide, rfl⟩

/-- A mark at the head of a text with two opening braces behind it ends before them. -/
theorem isPrefix_of_isPrefix_append_opening {m a z : Text} (hm : IsMark m) (hne : a ≠ [])
    (h : m <+: a ++ (opening ++ z)) : m <+: a := by
  obtain ⟨r, hr, hbrace, rfl⟩ := hm
  obtain ⟨c, a, rfl⟩ := List.exists_cons_of_ne_nil hne
  obtain ⟨s, hs⟩ := h
  rcases List.append_eq_append_iff.mp hs with ⟨s', ha, -⟩ | ⟨v, hv, hz⟩
  · exact ⟨s', ha.symm⟩
  · cases v with
    | nil =>
      rw [hv, List.append_nil]
    | cons d v =>
      -- the mark would end in the braces, so one of them would be its third character or later
      have hd : d = '\x7b' := (List.cons.inj hz).1.symm
      exfalso
      cases a with
      | nil =>
        have hrv : r = v := (List.cons.inj (List.cons.inj hv).2).2
        have hzv : '\x7b' :: z = v ++ s := (List.cons.inj hz).2
        obtain ⟨e, v, rfl⟩ := List.exists_cons_of_ne_nil (hrv ▸ hr)
        exact hbrace (hrv ▸ (List.cons.inj hzv).1 ▸ List.mem_cons_self)
      | cons e a =>
        have hrv : r = a ++ d :: v := (List.cons.inj (List.cons.inj hv).2).2
        exact hbrace (hrv ▸ hd ▸ List.mem_append_right a List.mem_cons_self)

/-- A mark does not begin in a text and end in two opening braces behind it. -/
theorem isInfix_or_of_isInfix_append_opening {m a z : Text} (hm : IsMark m)
    (h : m <:+: a ++ (opening ++ z)) : m <:+: a ∨ m <:+: opening ++ z := by
  induction a with
  | nil => exact Or.inr h
  | cons c a ih =>
    rcases List.infix_cons_iff.mp h with hpre | hin
    · exact Or.inl (isPrefix_of_isPrefix_append_opening hm (List.cons_ne_nil c a) hpre).isInfix
    · exact (ih hin).imp_left List.infix_cons

/-- What begins with a character does not begin in a text without it. -/
theorem isInfix_of_isInfix_append_of_notMem {m r a : Text} {b : Char} (hr : b ∉ r)
    (h : b :: m <:+: r ++ a) : b :: m <:+: a := by
  induction r with
  | nil => exact h
  | cons c r ih =>
    rw [List.mem_cons, not_or] at hr
    rcases List.infix_cons_iff.mp h with hpre | hin
    · exact absurd (List.cons_prefix_cons.mp hpre).1 hr.1
    · exact ih hr.2 hin

/-- What has no closing brace ends at the next closing braces. -/
theorem cut?_closing {r : Text} (hr : '\x7d' ∉ r) (a : Text) :
    Text.cut? (r ++ (closing ++ a)) closing = some (r, a) := by
  refine Text.cut?_append (by decide) (fun hin => ?_) a
  have := (isInfix_of_isInfix_append_of_notMem hr hin).length_le
  simp [closing] at this

/-- A mark begins with another one or behind it. -/
theorem isPrefix_or_of_isInfix_append {m n a : Text} (hm : IsMark m) (hn : IsMark n)
    (h : m <:+: n ++ a) : m <+: n ++ a ∨ m <:+: a := by
  obtain ⟨q, -, -, rfl⟩ := hm
  obtain ⟨r, hr, hbrace, rfl⟩ := hn
  rcases List.infix_cons_iff.mp h with hpre | hin
  · exact Or.inl hpre
  · rcases List.infix_cons_iff.mp hin with hpre | hin
    · -- its second brace would be the third character of the other mark
      obtain ⟨c, r, rfl⟩ := List.exists_cons_of_ne_nil hr
      have hc := (List.cons_prefix_cons.mp (List.cons_prefix_cons.mp hpre).2).1
      exact absurd (hc ▸ List.mem_cons_self) hbrace
    · exact Or.inr (isInfix_of_isInfix_append_of_notMem hbrace hin)

/-- A mark that does not occur before a place begins no earlier than there. -/
theorem not_isInfix_append_dropLast {m a : Text} (hm : IsMark m) (h : ¬ m <:+: a) :
    ¬ m <:+: a ++ m.dropLast := by
  have hlen : ¬ m <:+: m.dropLast := by
    intro hin
    have := hin.length_le
    obtain ⟨r, -, -, rfl⟩ := hm
    simp only [opening, List.length_append, List.length_cons, List.length_nil,
      List.length_dropLast] at this
    omega
  obtain ⟨r, hr, -, rfl⟩ := id hm
  have hdrop : (opening ++ r).dropLast = opening ++ r.dropLast :=
    List.dropLast_append_of_ne_nil hr
  rw [hdrop] at hlen ⊢
  intro hin
  exact (isInfix_or_of_isInfix_append_opening hm hin).elim h hlen

/-! ## Openers are read back -/

theorem BlockKind.isWord_of_mem_word {kind : BlockKind} {c : Char} (h : c ∈ kind.word) :
    Text.isWord c = true := by
  have hall : kind.word.Only Text.isWord := by
    cases kind with
    | whenSet => decide +kernel
    | unlessSet => decide +kernel
  exact hall c h

namespace Opener

variable (o : Opener)

theorem isBlank_or_isWord_of_mem_tag {c : Char} (h : c ∈ o.tag) :
    Text.isBlank c = true ∨ Text.isWord c = true := by
  simp only [tag, List.mem_append] at h
  rcases h with h | h | h | h | h
  · exact Or.inl (o.blank c (by simp [h]))
  · exact Or.inr (BlockKind.isWord_of_mem_word h)
  · exact Or.inl (o.blank c (by simp [h]))
  · exact Or.inr (o.name_word c h)
  · exact Or.inl (o.blank c (by simp [h]))

/-- There is no brace in an opener but those around it. -/
theorem brace_notMem_tag : '\x7b' ∉ o.tag ∧ '\x7d' ∉ o.tag := by
  constructor
  · intro h
    exact absurd (o.isBlank_or_isWord_of_mem_tag h) (by decide +kernel)
  · intro h
    exact absurd (o.isBlank_or_isWord_of_mem_tag h) (by decide +kernel)

/-- **Openers are read back.** -/
theorem opener?_tag : opener? o.tag = some (o.kind, o.name) := by
  have hstripped : o.name.Stripped := by
    rw [Text.stripped_iff]
    refine ⟨fun c hc => ?_, fun c hc => ?_⟩
    · exact Text.isBlank_eq_false_of_isWord (o.name_word c (List.mem_of_head? hc))
    · exact Text.isBlank_eq_false_of_isWord (o.name_word c (List.mem_of_getLast? hc))
  have hword : Text.firstWord? o.tag = some (o.kind.word, o.name ++ o.behind) := by
    refine Text.firstWord?_append (fun c hc => o.blank c (by simp [hc])) ?_ ?_ o.between_ne
      (fun c hc => o.blank c (by simp [hc])) (by simp [o.name_ne]) ?_
    · cases o.kind with
      | whenSet => decide
      | unlessSet => decide
    · exact fun c hc => Text.isBlank_eq_false_of_isWord (BlockKind.isWord_of_mem_word hc)
    · intro c hc
      rw [List.head?_append_of_ne_nil _ o.name_ne] at hc
      exact Text.isBlank_eq_false_of_isWord (o.name_word c (List.mem_of_head? hc))
  have hstrip : Text.strip (o.name ++ o.behind) = o.name := by
    rw [Text.strip_append_of_blank_right fun c hc => o.blank c (by simp [hc])]
    exact hstripped
  have hkind : BlockKind.ofWord? o.kind.word = some o.kind := by
    cases o.kind with
    | whenSet => decide
    | unlessSet => decide
  have hname : isName o.name = true := by
    simpa [isName, o.name_ne, Text.Only] using o.name_word
  simp only [opener?, hword, hkind, hstrip, hname, if_true]

theorem isMark_written : IsMark o.written := by
  refine ⟨'#' :: (o.tag ++ closing), List.cons_ne_nil _ _, ?_, rfl⟩
  have := o.brace_notMem_tag.1
  simp [closing, this]

end Opener

/-! ## Closing tags -/

theorem BlockKind.closingTag_prefix_iff {k k' : BlockKind} {t : Text} :
    k.closingTag <+: k'.closingTag ++ t ↔ k = k' := by
  cases k <;> cases k' <;> simp [closingTag, opening, closing, word]

theorem BlockKind.closingTag_not_prefix_opener (k : BlockKind) (o : Opener) (t : Text) :
    ¬ k.closingTag <+: o.written ++ t := by
  simp [closingTag, opening, Opener.written, blockMark]

/-- **A closing tag occurs** only where a block of its kind ends. -/
theorem Outline.closingTag_not_isInfix {kind : BlockKind} {o : Outline} (h : o.WellFormed)
    (hk : ¬ o.Has kind) : ¬ kind.closingTag <:+: o.written := by
  have hmark := isMark_closingTag kind
  induction o with
  | text t => exact IsPlain.closingTag h kind
  | block before op body rest ihb ihr =>
    obtain ⟨hbefore, -, hbody, hrest⟩ := h
    simp only [Has, not_or] at hk
    obtain ⟨hne, hkb, hkr⟩ := hk
    intro hin
    -- in the text before, at or behind the opener, in the body, at or behind the closing tag
    rcases isInfix_or_of_isInfix_append_opening hmark hin with hin | hin
    · exact hbefore.closingTag kind hin
    · rcases isPrefix_or_of_isInfix_append hmark op.isMark_written hin with hpre | hin
      · exact kind.closingTag_not_prefix_opener op _ hpre
      · rcases isInfix_or_of_isInfix_append_opening hmark hin with hin | hin
        · exact ihb hbody hkb hin
        · rcases isPrefix_or_of_isInfix_append hmark (isMark_closingTag op.kind) hin with hpre | hin
          · exact hne (BlockKind.closingTag_prefix_iff.mp hpre).symm
          · exact ihr hrest hkr hin

/-! ## The pass -/

/-- A block that is found is resolved, and then what follows it. -/
theorem resolve_block {holds : Text → Bool} {t before after tag rest body rest' : Text}
    {kind : BlockKind} {name : Text} (hmark : t.cut? blockMark = some (before, after))
    (htag : after.cut? closing = some (tag, rest)) (hopener : opener? tag = some (kind, name))
    (hclose : rest.cut? kind.closingTag = some (body, rest')) :
    resolve holds t =
      before ++ ((if kind.keeps (holds name) then resolve holds body else []) ++
        resolve holds rest') := by
  rw [resolve]
  split
  · next h => rw [hmark] at h; cases h
  · next h =>
    obtain ⟨rfl, rfl⟩ := Prod.mk.inj (Option.some.inj (hmark.symm.trans h))
    split
    · next h => rw [htag] at h; cases h
    · next h =>
      obtain ⟨rfl, rfl⟩ := Prod.mk.inj (Option.some.inj (htag.symm.trans h))
      rw [hopener]
      simp only
      split
      · next h => rw [hclose] at h; cases h
      · next h =>
        obtain ⟨rfl, rfl⟩ := Prod.mk.inj (Option.some.inj (hclose.symm.trans h))
        rw [List.append_assoc]

theorem Opener.keeps_iff {o : Opener} {vars : Variables} :
    o.kind.keeps (vars.isSet o.name) = true ↔ o.Keeps vars := by
  unfold Opener.Keeps BlockKind.keeps
  cases o.kind with
  | whenSet => exact Variables.isSet_iff
  | unlessSet => simp [← Variables.isSet_iff]

/-- **The first pass evaluates**: on a template written from texts and blocks it gives the texts
and the bodies that are kept. -/
theorem Outline.resolveWith_written (vars : Variables) (o : Outline) (h : o.WellFormed) :
    resolveWith vars o.written = o.eval vars := by
  induction o with
  | text t => exact resolve_of_cut?_eq_none (Text.cut?_eq_none_iff.mpr h.1)
  | block before op body rest ihb ihr =>
    obtain ⟨hbefore, hown, hbody, hrest⟩ := h
    -- the first opening mark is that of the opener, for the text before it has none
    have hmark : (block before op body rest).written.cut? blockMark = some (before,
        op.tag ++ (closing ++ (body.written ++ (op.kind.closingTag ++ rest.written)))) := by
      have := Text.cut?_append (by decide) (not_isInfix_append_dropLast isMark_blockMark hbefore.1)
        (op.tag ++ (closing ++ (body.written ++ (op.kind.closingTag ++ rest.written))))
      simpa only [written, Opener.written, List.append_assoc] using this
    -- the first closing braces are those of the opener, which has no brace
    have htag : Text.cut? (op.tag ++ (closing ++ (body.written ++ (op.kind.closingTag ++
        rest.written)))) closing =
          some (op.tag, body.written ++ (op.kind.closingTag ++ rest.written)) := by
      refine Text.cut?_append (by decide) (fun hin => ?_) _
      have := (isInfix_of_isInfix_append_of_notMem op.brace_notMem_tag.2 hin).length_le
      simp [closing] at this
    -- the nearest closing tag is the block's own, for the body has no block of its kind
    have hclose : Text.cut? (body.written ++ (op.kind.closingTag ++ rest.written))
        op.kind.closingTag = some (body.written, rest.written) := by
      refine Text.cut?_append ?_ (not_isInfix_append_dropLast (isMark_closingTag op.kind)
        (closingTag_not_isInfix hbody hown)) rest.written
      simp [BlockKind.closingTag, opening]
    rw [resolveWith, resolve_block hmark htag op.opener?_tag hclose]
    rw [resolveWith] at ihb ihr
    simp only [Opener.keeps_iff, ihb hbody, ihr hrest, eval]

/-- A brace before an opener, blanks in it, a block of the other kind in its body, and a
placeholder that stays. -/
theorem resolveWith_written_nested :
    let inner : Outline := .block "\x7b\x7bname\x7d\x7d is " ⟨.unlessSet, "mood", [], [' '], [],
      by decide, by decide +kernel, by decide, by decide +kernel⟩ (.text "calm") (.text [])
    let o : Outline := .block "\x7b\x7b" ⟨.whenSet, "name", ['\t'], [' ', ' '], ['\n'], by decide,
      by decide +kernel, by decide, by decide +kernel⟩ inner (.text "\x7d.")
    let vars : Variables := [("name", .str "Aria"), ("mood", .str [])]
    o.WellFormed ∧
      resolveWith vars o.written = "\x7b\x7b\x7b\x7bname\x7d\x7d is calm\x7d.".toList :=
  ⟨by decide +kernel,
    (Outline.resolveWith_written _ _ (by decide +kernel)).trans (by decide +kernel)⟩

end Roleplay.Template
