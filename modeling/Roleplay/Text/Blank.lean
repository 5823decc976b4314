import Roleplay.Text.Ranges

/-!
# Blanks, lines and words

The blanks of Unicode 14 (its separators, and the controls that separate), the line breaks among
them, and the cuts of a text at them.

## Main definitions

* `Text.isBlank c`, `Text.isLineBreak c`: the two classes
* `Text.strip t`: `t` without blanks at either end
* `Text.lines t`: the lines of `t`, without their breaks
* `Text.firstWord? t`: the first word of `t` and the rest, when something follows it
-/

namespace Roleplay.Text

/-- The blanks, as code point ranges. -/
def blankRanges : Ranges :=
  [(9, 13), (28, 32), (133, 133), (160, 160), (5760, 5760), (8192, 8202), (8232, 8233),
    (8239, 8239), (8287, 8287), (12288, 12288)]

/-- **Blanks.** -/
def isBlank (c : Char) : Bool :=
  blankRanges.contains c

/-- The line breaks, as code point ranges. -/
def lineBreakRanges : Ranges :=
  [(10, 13), (28, 30), (133, 133), (8232, 8233)]

/-- **Line breaks.** -/
def isLineBreak (c : Char) : Bool :=
  lineBreakRanges.contains c

/-- A text without blanks at either end. -/
def strip (t : Text) : Text :=
  stripWhere isBlank t

/-- **The lines of a text**, without their breaks. A carriage return and the line feed after it
are one break, and nothing follows the last break. -/
def lines : Text → List Text
  | [] => []
  | '\r' :: '\n' :: t => [] :: lines t
  | c :: t =>
    if isLineBreak c then [] :: lines t
    else match lines t with
      | [] => [[c]]
      | l :: ls => (c :: l) :: ls

/-- The first word of a text and what follows it without the blanks between, when both are
there. -/
def firstWord? (t : Text) : Option (Text × Text) :=
  let t := t.dropWhile isBlank
  let word := t.takeWhile (!isBlank ·)
  let rest := (t.dropWhile (!isBlank ·)).dropWhile isBlank
  if word.isEmpty || rest.isEmpty then none else some (word, rest)

/-- A text in which every line ends with a line feed: a carriage return, with the line feed after
it or without, is read as one. -/
def readLineEnds : Text → Text
  | [] => []
  | '\r' :: '\n' :: t => '\n' :: readLineEnds t
  | c :: t => (if c = '\r' then '\n' else c) :: readLineEnds t

end Roleplay.Text
