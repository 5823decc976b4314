import Roleplay.Template.Conditional

/-!
# Placeholders

`{{name}}` stands for the text of a variable, empty when the variable is not there. Braces around
anything but a name stay as they are. A template is rendered by resolving its blocks and then
filling its placeholders, so the text of a variable is never read as template.

## Main definitions

* `Template.fill textOf t`: `t` with its placeholders filled
* `Template.render vars t`: both passes
-/

namespace Roleplay.Template

/-- **The second pass**: every placeholder becomes the text of its variable. Where the braces do
not hold a name, the next place to look at begins at the second of them. -/
def fill (textOf : Text → Text) (t : Text) : Text :=
  match _ho : t.cut? opening with
  | none => t
  | some (before, after) =>
    match _hc : after.cut? closing with
    | none => t
    | some (name, rest) =>
      if isName name then before ++ textOf name ++ fill textOf rest
      else before ++ '\x7b' :: fill textOf ('\x7b' :: after)
termination_by t.length
decreasing_by
  all_goals
    have h := congrArg List.length (Text.eq_of_cut?_eq_some _ho)
    simp only [opening, List.length_append, List.length_cons, List.length_nil] at h
  · have := congrArg List.length (Text.eq_of_cut?_eq_some _hc)
    simp only [List.length_append] at this
    omega
  · simp only [List.length_cons]; omega

/-- The first pass with variables. -/
def resolveWith (vars : Variables) (t : Text) : Text :=
  resolve vars.isSet t

/-- The second pass with variables. -/
def fillWith (vars : Variables) (t : Text) : Text :=
  fill vars.text t

/-- **Rendering** a template. -/
def render (vars : Variables) (t : Text) : Text :=
  fillWith vars (resolveWith vars t)

end Roleplay.Template
