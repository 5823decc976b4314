import Roleplay.Proofs.Template.Opacity

/-!
# The second pass fills exactly the placeholders

A placeholder is a name in braces, wherever it stands in a text and whatever braces stand next to
it. Two of them have no character in common, since a name has no brace; so all can be replaced at
once, and that is what the second pass does. It looks for opening braces from left to right and
pairs them with the next closing ones. Where these do not hold a name it steps over one brace only,
so it comes to every place at which a placeholder begins.

## Main definitions

* `Template.Placed t before name behind`: a placeholder of `t`, with what is before and behind it
* `Template.Variables.Shows`: the text that a variable is shown as

## Main results

* `Template.Placed.eq_or_isPrefix`: placeholders do not overlap
* `Template.Placed.exists_segments`: every placeholder is among the segments
* `Template.fillWith_placeholders`: the second pass fills them all, and keeps everything else
-/

namespace Roleplay.Template

/-- **A placeholder of a text**: a name in braces, with what is before and behind it. -/
structure Placed (t before name behind : Text) : Prop where
  name_ne : name ≠ []
  name_word : name.Only Text.isWord
  eq : t = before ++ ((Segment.placeholder name).written ++ behind)

/-- **What a variable is shown as**: nothing when it is missing or null, a word when it is a truth
value, and the form of its value inside a text otherwise. -/
inductive Variables.Shows (vars : Variables) (name : Text) : Text → Prop
  | missing (h : Entries.get? vars name = none) : Shows vars name []
  | null (h : Entries.get? vars name = some .null) : Shows vars name []
  | truth (h : Entries.get? vars name = some (.bool true)) : Shows vars name "true"
  | falsehood (h : Entries.get? vars name = some (.bool false)) : Shows vars name "false"
  | other {v : Json} (h : Entries.get? vars name = some v) (hnull : v ≠ .null)
    (hbool : ∀ b, v ≠ .bool b) : Shows vars name v.shown

theorem Variables.shows_text (vars : Variables) (name : Text) :
    vars.Shows name (vars.text name) := by
  unfold Variables.text Members.get
  cases h : Entries.get? vars name with
  | none => exact .missing h
  | some v =>
    cases v with
    | null => exact .null h
    | bool b =>
      cases b with
      | true => exact .truth h
      | false => exact .falsehood h
    | _ => exact .other h (by simp) (by simp)

/-! ## Places -/

theorem isName_iff {name : Text} : isName name = true ↔ name ≠ [] ∧ name.Only Text.isWord := by
  simp [isName, Text.Only]

theorem brace_notMem_of_only_isWord {name : Text} (h : name.Only Text.isWord) :
    '\x7b' ∉ name ∧ '\x7d' ∉ name := by
  constructor
  · intro hmem
    exact absurd (h _ hmem) (by decide +kernel)
  · intro hmem
    exact absurd (h _ hmem) (by decide +kernel)

namespace Placed

variable {t before name behind before' name' behind' after rest : Text}

theorem eq_braces (h : Placed t before name behind) :
    t = before ++ (opening ++ (name ++ (closing ++ behind))) := by
  simpa only [Segment.written, List.append_assoc] using h.eq

/-- A placeholder is a mark: it has no opening brace but those it begins with. -/
theorem isMark (h : Placed t before name behind) : IsMark (Segment.placeholder name).written := by
  refine ⟨name ++ closing, by simp [closing], ?_, rfl⟩
  rw [List.mem_append, not_or]
  exact ⟨(brace_notMem_of_only_isWord h.name_word).1, by decide⟩

/-- A placeholder behind a piece of the text is one of what follows the piece. -/
theorem of_append {s : Text} (h : Placed (s ++ t) (s ++ before) name behind) :
    Placed t before name behind := by
  refine ⟨h.name_ne, h.name_word, ?_⟩
  have := h.eq
  rwa [List.append_assoc, List.append_cancel_left_eq] at this

/-- What begins with the first opening braces is no placeholder, or ends before the next one. -/
theorem isPrefix_of_isMark {m s : Text} (hm : IsMark m) (h : Placed (m ++ s) before name behind)
    (hne : before ≠ []) : m <+: before := by
  refine isPrefix_of_isPrefix_append_opening hm hne (z := name ++ (closing ++ behind)) ?_
  exact h.eq_braces ▸ List.prefix_append m s

/-- **Two placeholders do not overlap**: they are the same, or one ends before the other begins. -/
theorem eq_or_isPrefix (h : Placed t before name behind) (h' : Placed t before' name' behind') :
    (before = before' ∧ name = name' ∧ behind = behind') ∨
      before ++ (Segment.placeholder name).written <+: before' ∨
      before' ++ (Segment.placeholder name').written <+: before := by
  -- one of them begins first, and the other one at the same place or behind it
  have hstep : ∀ {a n b a' n' b' : Text}, Placed t a n b → Placed t a' n' b' → a <+: a' →
      (a = a' ∧ n = n' ∧ b = b') ∨ a ++ (Segment.placeholder n).written <+: a' := by
    rintro a n b a' n' b' h h' ⟨c, rfl⟩
    have hafter : Placed ((Segment.placeholder n).written ++ b) c n' b' := by
      apply Placed.of_append (s := a)
      rw [← h.eq]
      exact h'
    by_cases hc : c = []
    · subst hc
      have hbraces := hafter.eq_braces
      simp only [Segment.written, List.append_assoc, List.nil_append, List.append_cancel_left_eq]
        at hbraces
      have hn := cut?_closing (brace_notMem_of_only_isWord h.name_word).2 b
      have hn' := cut?_closing (brace_notMem_of_only_isWord h'.name_word).2 b'
      have hcut := hn.symm.trans (hbraces ▸ hn')
      obtain ⟨hname, hbehind⟩ := Prod.mk.inj (Option.some.inj hcut)
      exact Or.inl ⟨(List.append_nil a).symm, hname, hbehind⟩
    · right
      rw [List.prefix_append_right_inj]
      exact hafter.isPrefix_of_isMark h.isMark hc
  rcases List.prefix_or_prefix_of_prefix ⟨_, h.eq.symm⟩ ⟨_, h'.eq.symm⟩ with hle | hle
  · exact (hstep h h' hle).imp_right Or.inl
  · rcases hstep h' h hle with ⟨rfl, rfl, rfl⟩ | hpre
    · exact Or.inl ⟨rfl, rfl, rfl⟩
    · exact Or.inr (Or.inr hpre)

/-! ## The segments of a text -/

/-- A placeholder stands at the first opening braces or behind them. -/
theorem exists_of_cut?_opening (h : Placed t before name behind)
    (ho : t.cut? opening = some (before', after)) :
    ∃ c, before = before' ++ c ∧ Placed (opening ++ after) c name behind := by
  obtain ⟨c, hbefore, hafter⟩ := Text.exists_of_cut?_eq_some ho h.eq_braces
  refine ⟨c, hbefore, h.name_ne, h.name_word, ?_⟩
  simpa only [Segment.written, List.append_assoc] using hafter

/-- The closing braces of a placeholder are behind the first opening ones. -/
theorem closing_isInfix (h : Placed (opening ++ after) before name behind) :
    closing <:+: after :=
  List.IsInfix.trans ⟨name, behind, List.append_assoc _ _ _⟩
    (Text.isSuffix_of_append_eq h.eq_braces).isInfix

/-- A placeholder at the first opening braces has what is between them and the next closing ones. -/
theorem cut?_of_nil (h : Placed (opening ++ after) [] name behind) :
    after.cut? closing = some (name, behind) := by
  have hbraces := h.eq_braces
  rw [List.nil_append, List.append_cancel_left_eq] at hbraces
  rw [hbraces]
  exact cut?_closing (brace_notMem_of_only_isWord h.name_word).2 behind

/-- **Every placeholder is among the segments**, at its place. -/
theorem exists_segments (h : Placed t before name behind) :
    ∃ front back, segments t = front ++ .placeholder name :: back ∧
      front.flatMap Segment.written = before ∧ back.flatMap Segment.written = behind := by
  fun_induction segments t generalizing before with
  | case1 t ho =>
    have hin : opening <:+: t := ⟨before, name ++ (closing ++ behind), by
      rw [List.append_assoc, ← h.eq_braces]⟩
    exact absurd hin (Text.cut?_eq_none_iff.mp ho)
  | case2 t first after ho hc =>
    obtain ⟨c, -, hafter⟩ := h.exists_of_cut?_opening ho
    exact absurd hafter.closing_isInfix (Text.cut?_eq_none_iff.mp hc)
  | case3 t first after ho found rest hc hname ih =>
    obtain ⟨c, rfl, hafter⟩ := h.exists_of_cut?_opening ho
    by_cases hfirst : c = []
    · -- the first braces are those of the placeholder
      subst hfirst
      cases hc.symm.trans hafter.cut?_of_nil
      exact ⟨[.literal first], segments behind, rfl, by simp [Segment.written],
        flatMap_written_segments behind⟩
    · -- the first braces hold another name, and the placeholder is behind them
      obtain ⟨hne, hword⟩ := isName_iff.mp hname
      have hfound : Placed (opening ++ after) [] found rest := ⟨hne, hword, by
        rw [Text.eq_of_cut?_eq_some hc]
        simp only [Segment.written, List.nil_append, List.append_assoc]⟩
      have heq := hfound.eq
      rw [List.nil_append] at heq
      rw [heq] at hafter
      obtain ⟨c, rfl⟩ := hafter.isPrefix_of_isMark hfound.isMark hfirst
      obtain ⟨front, back, hsegments, hfront, hback⟩ := ih hafter.of_append
      refine ⟨.literal first :: .placeholder found :: front, back, ?_, ?_, hback⟩
      · rw [hsegments]
        rfl
      · rw [← hfront]
        rfl
  | case4 t first after ho found rest hc hname ih =>
    obtain ⟨c, rfl, hafter⟩ := h.exists_of_cut?_opening ho
    by_cases hfirst : c = []
    · subst hfirst
      cases hc.symm.trans hafter.cut?_of_nil
      exact absurd (isName_iff.mpr ⟨h.name_ne, h.name_word⟩) hname
    · -- the placeholder begins at the second of the first braces or behind it
      obtain ⟨d, c, rfl⟩ := List.exists_cons_of_ne_nil hfirst
      obtain ⟨rfl, -⟩ := List.cons.inj hafter.eq
      obtain ⟨front, back, hsegments, hfront, hback⟩ := ih (hafter.of_append (s := ['\x7b']))
      refine ⟨.literal (first ++ ['\x7b']) :: front, back, ?_, ?_, hback⟩
      · rw [hsegments]
        rfl
      · rw [← hfront]
        simp [Segment.written]

/-- **The placeholders of a text are those among its segments**, and no others. -/
theorem iff_segments :
    Placed t before name behind ↔ ∃ front back, segments t = front ++ .placeholder name :: back ∧
      front.flatMap Segment.written = before ∧ back.flatMap Segment.written = behind := by
  constructor
  · exact exists_segments
  · rintro ⟨front, back, hsegments, rfl, rfl⟩
    have hmem : .placeholder name ∈ segments t :=
      hsegments ▸ List.mem_append_right front List.mem_cons_self
    obtain ⟨hne, hword⟩ := isName_iff.mp (isName_of_mem_segments hmem)
    refine ⟨hne, hword, ?_⟩
    conv_lhs => rw [← flatMap_written_segments t, hsegments]
    rw [List.flatMap_append, List.flatMap_cons]

end Placed

/-- **The second pass fills exactly the placeholders.** The placeholders of a text do not overlap.
The text is made up of literal texts and all of its placeholders, each at its place, and filling it
gives the literal texts and, in the places of the placeholders, what their variables are shown as. -/
theorem fillWith_placeholders (vars : Variables) (t : Text) :
    (∀ {a n b a' n' b'}, Placed t a n b → Placed t a' n' b' →
      (a = a' ∧ n = n' ∧ b = b') ∨ a ++ (Segment.placeholder n).written <+: a' ∨
        a' ++ (Segment.placeholder n').written <+: a) ∧
    (∀ name, vars.Shows name (vars.text name)) ∧
    ∃ segs : List Segment, segs.flatMap Segment.written = t ∧
      (∀ a n b, Placed t a n b ↔ ∃ front back, segs = front ++ .placeholder n :: back ∧
        front.flatMap Segment.written = a ∧ back.flatMap Segment.written = b) ∧
      fillWith vars t = segs.flatMap (Segment.filled vars.text) := by
  refine ⟨Placed.eq_or_isPrefix, vars.shows_text, segments t, flatMap_written_segments t, ?_, ?_⟩
  · intro a n b
    exact Placed.iff_segments
  · exact fill_eq_flatMap vars.text t

/-- A brace before a placeholder, one that is opened and not closed behind it, and closing braces
at the end. -/
theorem fillWith_placeholders_braces :
    let vars : Variables := [("a", .int 0), ("b", .bool true)]
    let t : Text := "\x7b\x7b\x7ba\x7d\x7d\x7b\x7bb\x7b\x7bb\x7d\x7d\x7d\x7d"
    let before : Text := "\x7b\x7b\x7ba\x7d\x7d\x7b\x7bb"
    Placed t ['\x7b'] ['a'] "\x7b\x7bb\x7b\x7bb\x7d\x7d\x7d\x7d" ∧
      Placed t before ['b'] ['\x7d', '\x7d'] ∧
      '\x7b' :: (Segment.placeholder ['a']).written <+: before ∧
      fillWith vars t = "\x7b0\x7b\x7bbtrue\x7d\x7d".toList ∧
      ∃ segs : List Segment, segs.flatMap Segment.written = t ∧
        fillWith vars t = segs.flatMap (Segment.filled vars.text) := by
  intro vars t before
  have ha : Placed t ['\x7b'] ['a'] "\x7b\x7bb\x7b\x7bb\x7d\x7d\x7d\x7d" :=
    ⟨by decide, by decide +kernel, by decide +kernel⟩
  have hb : Placed t before ['b'] ['\x7d', '\x7d'] :=
    ⟨by decide, by decide +kernel, by decide +kernel⟩
  obtain ⟨hdisjoint, -, segs, hwritten, -, hfill⟩ := fillWith_placeholders vars t
  refine ⟨ha, hb, ?_, by decide +kernel, segs, hwritten, hfill⟩
  rcases hdisjoint ha hb with ⟨hsame, -⟩ | hends | hends
  · exact absurd hsame (by decide)
  · exact hends
  · exact absurd hends (by decide)

end Roleplay.Template
