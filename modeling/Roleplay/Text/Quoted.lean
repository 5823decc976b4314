import Roleplay.Text.Printable

/-!
# Quoted text

The quoted form of a text, as it stands inside the written form of a list or in a message: in
single quotes, or in double quotes when the text holds a single quote and no double one. What is
not printable is written by its code point.

## Main definitions

* `Text.quoted t`: the quoted form of `t`
-/

namespace Roleplay.Text

/-- A character by its code point, in the shortest of the three forms. -/
def codePointEscape (c : Char) : Text :=
  let n := c.toNat
  if n ≤ 0xff then '\\' :: 'x' :: hex 2 n
  else if n ≤ 0xffff then '\\' :: 'u' :: hex 4 n
  else '\\' :: 'U' :: hex 8 n

/-- A character inside the quotes `q`. -/
def quotedChar (q c : Char) : Text :=
  if c = q || c = '\\' then ['\\', c]
  else if c = '\t' then ['\\', 't']
  else if c = '\n' then ['\\', 'n']
  else if c = '\r' then ['\\', 'r']
  else if isPrintable c then [c]
  else codePointEscape c

/-- **The quoted form of a text.** -/
def quoted (t : Text) : Text :=
  let q := if '\'' ∈ t ∧ '"' ∉ t then '"' else '\''
  [q] ++ t.flatMap (quotedChar q) ++ [q]

end Roleplay.Text
