import Roleplay.Proofs.Template.Placeholders

/-!
# Templates of one tag

A template that is nothing but a placeholder is rendered as the text of its variable, whatever that
text is; one that is nothing but a block is rendered as the body or as nothing. So a variable is of
use in a template as soon as its name is one that templates take.

## Main results

* `Template.render_placeholder`: a placeholder is rendered as the text of its variable
* `Template.render_block`: a block is rendered as its body or as nothing
-/

namespace Roleplay.Template

variable {vars : Variables} {name body : Text}

theorem not_isInfix_of_brace_notMem {m t : Text} (hm : IsMark m) (h : '\x7b' ∉ t) : ¬ m <:+: t := by
  obtain ⟨r, -, -, rfl⟩ := hm
  exact fun hin => h (hin.subset List.mem_cons_self)

/-- A text without an opening brace is left as it is by both passes. -/
theorem fill_eq_self {textOf : Text → Text} {t : Text} (h : '\x7b' ∉ t) : fill textOf t = t :=
  fill_of_unopened (Text.cut?_eq_none_iff.mpr fun hin => h (hin.subset List.mem_cons_self))

theorem resolve_eq_self {holds : Text → Bool} {t : Text} (h : '\x7b' ∉ t) : resolve holds t = t :=
  resolve_of_cut?_eq_none
    (Text.cut?_eq_none_iff.mpr (not_isInfix_of_brace_notMem isMark_blockMark h))

/-- A placeholder opens no block. -/
theorem blockMark_not_isInfix_placeholder (h : isName name = true) :
    ¬ blockMark <:+: (Segment.placeholder name).written := by
  obtain ⟨hne, hword⟩ := isName_iff.mp h
  have hplaced : Placed (Segment.placeholder name).written [] name [] :=
    ⟨hne, hword, by simp⟩
  intro hin
  rw [← List.append_nil (Segment.placeholder name).written] at hin
  rcases isPrefix_or_of_isInfix_append isMark_blockMark hplaced.isMark hin with hpre | hin
  · -- the name would begin with the character of the mark
    obtain ⟨c, r, rfl⟩ := List.exists_cons_of_ne_nil hne
    have hc : '#' = c := by simpa [blockMark, opening, Segment.written] using hpre
    exact absurd (hword c List.mem_cons_self) (hc ▸ by decide)
  · simpa [blockMark, opening] using hin.length_le

/-- **A placeholder** is rendered as the text of its variable. -/
theorem render_placeholder (h : isName name = true) :
    render vars (Segment.placeholder name).written = vars.text name := by
  have hbrace := (brace_notMem_of_only_isWord (isName_iff.mp h).2).2
  have ho : (Segment.placeholder name).written.cut? opening =
      some ([], name ++ (closing ++ [])) := by
    simp [Segment.written, opening, Text.cut?, Text.dropPrefix?]
  rw [render, resolveWith, resolve_of_cut?_eq_none
    (Text.cut?_eq_none_iff.mpr (blockMark_not_isInfix_placeholder h)), fillWith,
    fill_of_closed ho (cut?_closing hbrace []), if_pos h, fill_eq_self (by simp)]
  simp

/-- **A block** is rendered as its body or as nothing. -/
theorem render_block (vars : Variables) (o : Opener) (hbody : '\x7b' ∉ body) :
    render vars (o.written ++ (body ++ o.kind.closingTag)) =
      if o.Keeps vars then body else [] := by
  have hmark : Text.cut? (o.written ++ (body ++ o.kind.closingTag)) blockMark =
      some ([], o.tag ++ (closing ++ (body ++ o.kind.closingTag))) := by
    simp [Opener.written, blockMark, opening, Text.cut?, Text.dropPrefix?]
  have hclose : Text.cut? (body ++ (o.kind.closingTag ++ [])) o.kind.closingTag =
      some (body, []) := by
    have hclosing := isMark_closingTag o.kind
    apply Text.cut?_append
    · simp [BlockKind.closingTag, opening]
    · exact not_isInfix_append_dropLast hclosing (not_isInfix_of_brace_notMem hclosing hbody)
  rw [List.append_nil] at hclose
  rw [render, resolveWith, resolve_block hmark (cut?_closing o.brace_notMem_tag.2 _) o.opener?_tag
    hclose, resolve_eq_self hbody, resolve_eq_self (t := []) (by simp), List.nil_append,
    List.append_nil]
  by_cases hkeeps : o.Keeps vars
  · rw [if_pos (Opener.keeps_iff.mpr hkeeps), if_pos hkeeps, fillWith, fill_eq_self hbody]
  · rw [if_neg (mt Opener.keeps_iff.mp hkeeps), if_neg hkeeps, fillWith, fill_eq_self (by simp)]

end Roleplay.Template
