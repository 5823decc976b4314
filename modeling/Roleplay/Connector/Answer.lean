import Roleplay.Completion

/-!
# The answer of a provider

A provider answers with a value whose members differ from service to service. A member that is not
there is a failure where it is needed; everything null, false, zero or empty counts as not given,
but an object always counts as given.

## Main definitions

* `Answer.member`, `Answer.first`, `Answer.parts`: the parts of an answer
* `Answer.isGiven`: whether a value is given
* `Answer.usage`: the tokens that an answer counts
-/

namespace Roleplay.Answer

/-- A member of an answer. -/
def member (v : Json) (k : Text) : Except Failure Json :=
  match v with
  | .obj ms =>
    match Entries.get? ms k with
    | some w => .ok w
    | none => .error .missingMember
  | _ => .error .missingMember

/-- A member of an answer, null when it is not there. -/
def member? (v : Json) (k : Text) : Json :=
  match v with
  | .obj ms => Members.get ms k
  | _ => .null

/-- Whether a value is given. -/
def isGiven : Json → Bool
  | .obj _ => true
  | v => v.isTruthy

/-- A value that is given, the other one otherwise. -/
def orElse (v w : Json) : Json :=
  if isGiven v then v else w

/-- The first item of a list that is not empty. -/
def first : Json → Except Failure Json
  | .arr (x :: _) => .ok x
  | .str (c :: _) => .ok (.str [c])
  | _ => .error .wrongKind

/-- The items of a list. -/
def parts : Json → Except Failure (List Json)
  | .arr xs => .ok xs
  | .str s => .ok (s.map fun c => .str [c])
  | _ => .error .wrongKind

/-- **The tokens that an answer counts**, under the names that its service has for them. -/
def usage (v : Json) (prompt completion total : Text) : Except Failure (Option Usage) :=
  if isGiven v then do
    let counts : Members := [("prompt_tokens", ← member v prompt),
      ("completion_tokens", ← member v completion), ("total_tokens", ← member v total)]
    return some (← (Usage.ofJson (.obj counts)).toExcept)
  else .ok none

/-- **The reply of an answer**: its texts are checked together. -/
def reply (content reasoning model : Json) (usage : Option Usage) : Except Failure Reply :=
  let fields : Members := [("content", content), ("reasoning", reasoning), ("model", model)]
  (Reply.ofJson (.obj fields)).toExcept.map fun r => { r with usage }

end Roleplay.Answer
