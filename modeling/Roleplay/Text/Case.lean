import Roleplay.Text.CaseTable

/-!
# Small and capital letters

The full case mappings: a letter may have a form of several characters, and a capital sigma
becomes a final sigma where it ends a word.

## Main definitions

* `Text.lower t`, `Text.upper t`: `t` in small and in capital letters
* `Text.endsWord before after`: whether a capital sigma between the two texts ends a word
* `Text.capitalize t`: `t` with its first character in capital form
-/

namespace Roleplay.Text

/-- Whether a capital sigma ends a word: a cased character stands before it and none after it,
the ignorable characters between looked past. The text before it is given backwards. -/
def endsWord (before after : Text) : Bool :=
  let near := fun t : Text => (t.dropWhile (caseIgnorableRanges.contains ·)).head?
  (near before).any (casedRanges.contains ·) && !(near after).any (casedRanges.contains ·)

/-- The small form of a character by itself. -/
def lowerChar (c : Char) : Text :=
  if c.toNat < 128 then [c.toLower]
  else if c = 'İ' then ['i', '\u0307']
  else [(CaseRun.image? lowerRuns c).getD c]

/-- The small form of a text that follows `before`, which is given backwards. -/
def lowerAfter : (before t : Text) → Text
  | _, [] => []
  | before, c :: t =>
    (if c = 'Σ' then [if endsWord before t then 'ς' else 'σ'] else lowerChar c)
      ++ lowerAfter (c :: before) t

/-- **A text in small letters.** -/
def lower (t : Text) : Text :=
  lowerAfter [] t

/-- The capital form of a character. -/
def upperChar (c : Char) : Text :=
  if c.toNat < 128 then [c.toUpper]
  else match upperSequences.lookup c.toNat with
    | some ns => ns.map Char.ofNat
    | none => [(CaseRun.image? upperRuns c).getD c]

/-- **A text in capital letters.** -/
def upper (t : Text) : Text :=
  t.flatMap upperChar

/-- A text with its first character in capital form. -/
def capitalize : Text → Text
  | [] => []
  | c :: t => upperChar c ++ t

end Roleplay.Text
