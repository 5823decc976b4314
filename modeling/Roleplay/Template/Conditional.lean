import Roleplay.Template.Basic
import Roleplay.Text.Blank

/-!
# Conditional blocks

`{{#if name}}body{{/if}}` keeps its body when the variable is set, and
`{{#unless name}}body{{/unless}}` when it is not. A block closes at the nearest closing tag of
its own kind, so blocks of one kind do not nest; blocks of the other kind may stand in a body.
What is no opener, and an opener that nothing closes, stay as they are.

## Main definitions

* `Template.BlockKind`, `Template.opener?`: the two kinds of block and their openers
* `Template.resolve holds t`: `t` with its blocks resolved, `holds` saying which names are set

## Main results

* `Template.resolve_of_cut?_eq_none`: a text without an opening mark resolves to itself
-/

namespace Roleplay.Template

/-- **The kinds of block**: the body is kept when the name is set, or unless it is. -/
inductive BlockKind
  | whenSet
  | unlessSet
deriving DecidableEq, Repr

/-- The word of a kind in its tags. -/
def BlockKind.word : BlockKind → Text
  | .whenSet => "if"
  | .unlessSet => "unless"

/-- The kind with a word. -/
def BlockKind.ofWord? (w : Text) : Option BlockKind :=
  if w = BlockKind.whenSet.word then some .whenSet
  else if w = BlockKind.unlessSet.word then some .unlessSet
  else none

/-- Whether a block of a kind keeps its body. -/
def BlockKind.keeps (kind : BlockKind) (isSet : Bool) : Bool :=
  match kind with
  | .whenSet => isSet
  | .unlessSet => !isSet

/-- Two opening braces. -/
def opening : Text := ['\x7b', '\x7b']

/-- Two closing braces. -/
def closing : Text := ['\x7d', '\x7d']

/-- The mark that begins a block tag. -/
def blockMark : Text := opening ++ ['#']

/-- The closing tag of a kind. -/
def BlockKind.closingTag (kind : BlockKind) : Text :=
  opening ++ '/' :: kind.word ++ closing

/-- The kind and the name of a block opener, from the text between the braces, after its mark. -/
def opener? (tag : Text) : Option (BlockKind × Text) :=
  match tag.firstWord? with
  | none => none
  | some (w, rest) =>
    match BlockKind.ofWord? w with
    | none => none
    | some kind => if isName rest.strip then some (kind, rest.strip) else none

/-- **The first pass**: every closed block becomes its resolved body or nothing. -/
def resolve (holds : Text → Bool) (t : Text) : Text :=
  match _hm : t.cut? blockMark with
  | none => t
  | some (before, after) =>
    match _ht : after.cut? closing with
    | none => t
    | some (tag, rest) =>
      match opener? tag with
      | none => before ++ opening ++ resolve holds ('#' :: after)
      | some (kind, name) =>
        match _hc : rest.cut? kind.closingTag with
        | none => before ++ blockMark ++ tag ++ closing ++ resolve holds rest
        | some (body, rest) =>
          before ++ (if kind.keeps (holds name) then resolve holds body else [])
            ++ resolve holds rest
termination_by t.length
decreasing_by
  all_goals
    have h := congrArg List.length (Text.eq_of_cut?_eq_some _hm)
    simp only [blockMark, opening, List.length_append, List.length_cons, List.length_nil] at h
  · simp only [List.length_cons]; omega
  · have := congrArg List.length (Text.eq_of_cut?_eq_some _ht)
    simp only [List.length_append] at this
    omega
  all_goals
    have h₁ := congrArg List.length (Text.eq_of_cut?_eq_some _ht)
    have h₂ := congrArg List.length (Text.eq_of_cut?_eq_some _hc)
    simp only [List.length_append] at h₁ h₂
    omega

/-- A text without an opening mark resolves to itself. -/
theorem resolve_of_cut?_eq_none {holds : Text → Bool} {t : Text} (h : t.cut? blockMark = none) :
    resolve holds t = t := by
  rw [resolve]
  split
  · rfl
  · simp_all

end Roleplay.Template
