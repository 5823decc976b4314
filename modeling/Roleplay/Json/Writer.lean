import Roleplay.Json.Basic
import Roleplay.Number.Numeral
import Roleplay.Number.Shortest

/-!
# Writing JSON

A document is written in a style: which characters are escaped, what stands between the parts, how
deep a line is indented, and how numbers are written.

## Main definitions

* `Json.Style`, and the styles `Json.Style.plain`, `Json.Style.ascii`, `Json.Style.indented`,
  `Json.Style.indentedText` and `Json.Style.compact`
* `Json.write style v`: the document of `v`
* `Json.isWritable v`: whether no numeral of the document of `v` is too long
-/

namespace Roleplay.Json

/-- **A style**: whether characters beyond ASCII are escaped, the separators, the number of
spaces of an indentation step, and the writing of binary numbers. -/
structure Style where
  escapeNonAscii : Bool
  comma : Text
  colon : Text
  indent : Option Nat
  number : Binary64 → Text

/-- A binary number with the names of what is not finite. -/
def namedNumber : Binary64 → Text
  | .nan => "NaN"
  | .infinity false => "Infinity"
  | .infinity true => "-Infinity"
  | .finite s m e => Layout.wide.writeFinite s m e

/-- A binary number where only a finite one may stand, null in the place of any other. -/
def finiteNumber : Binary64 → Text
  | .finite s m e => Layout.compact.writeFinite s m e
  | _ => "null"

namespace Style

/-- On one line, characters as they are. -/
def plain : Style := ⟨false, ", ", ": ", none, namedNumber⟩

/-- On one line, characters beyond ASCII escaped. -/
def ascii : Style := { plain with escapeNonAscii := true }

/-- A part a line, indented by two spaces, characters beyond ASCII escaped. -/
def indented : Style := ⟨true, ",", ": ", some 2, namedNumber⟩

/-- A part a line, indented by two spaces, characters as they are. -/
def indentedText : Style := { indented with escapeNonAscii := false }

/-- Without any space, characters as they are. -/
def compact : Style := ⟨false, ",", ":", none, finiteNumber⟩

end Style

/-- The escape of a sixteen bit unit. -/
def unitEscape (n : Nat) : Text :=
  '\\' :: 'u' :: Text.hex 4 n

/-- The escape of a character beyond ASCII, in two units where one does not hold it. -/
def pointEscape (n : Nat) : Text :=
  if n < 0x10000 then unitEscape n
  else unitEscape (0xD800 + (n - 0x10000) / 0x400) ++ unitEscape (0xDC00 + (n - 0x10000) % 0x400)

/-- A character inside a string. -/
def writeChar (escapeNonAscii : Bool) (c : Char) : Text :=
  if c = '"' then ['\\', '"']
  else if c = '\\' then ['\\', '\\']
  else if c = '\n' then ['\\', 'n']
  else if c = '\r' then ['\\', 'r']
  else if c = '\t' then ['\\', 't']
  else if c = '\x08' then ['\\', 'b']
  else if c = '\x0c' then ['\\', 'f']
  else if c.toNat < 0x20 then unitEscape c.toNat
  else if escapeNonAscii && 0x7F ≤ c.toNat then pointEscape c.toNat
  else [c]

/-- A string in its quotes. -/
def writeString (escapeNonAscii : Bool) (s : Text) : Text :=
  ['"'] ++ s.flatMap (writeChar escapeNonAscii) ++ ['"']

/-- The break before a part at a depth: a new line with its indentation, or nothing. -/
def Style.newLine (style : Style) (depth : Nat) : Text :=
  match style.indent with
  | none => []
  | some n => '\n' :: List.replicate (n * depth) ' '

/-- Written parts between their brackets, at a depth. -/
def Style.bracket (style : Style) (depth : Nat) (left right : Char) (parts : List Text) : Text :=
  if parts.isEmpty then [left, right]
  else
    [left] ++ style.newLine (depth + 1)
      ++ Text.join (style.comma ++ style.newLine (depth + 1)) parts
      ++ style.newLine depth ++ [right]

mutual

/-- A value at a depth. -/
def writeAt (style : Style) (depth : Nat) : Json → Text
  | .null => "null"
  | .bool true => "true"
  | .bool false => "false"
  | .int i => Text.ofInt i
  | .float x => style.number x
  | .str s => writeString style.escapeNonAscii s
  | .arr xs => style.bracket depth '[' ']' (writeItems style (depth + 1) xs)
  | .obj ms => style.bracket depth '\x7b' '\x7d' (writeMembers style (depth + 1) ms)

/-- The items of an array, each written. -/
def writeItems (style : Style) (depth : Nat) : List Json → List Text
  | [] => []
  | x :: xs => writeAt style depth x :: writeItems style depth xs

/-- The members of an object, each written. -/
def writeMembers (style : Style) (depth : Nat) : List (Text × Json) → List Text
  | [] => []
  | (k, v) :: ms =>
    (writeString style.escapeNonAscii k ++ style.colon ++ writeAt style depth v)
      :: writeMembers style depth ms

end

/-- **Writing a document** in a style. -/
def write (style : Style) (v : Json) : Text :=
  writeAt style 0 v

/-- Whether a whole number has no more digits than a numeral may have. -/
def fitsNumeral (i : Int) : Bool :=
  i.natAbs < Nat.pow 10 Numeral.maxDigits

mutual

/-- **Whether a value can be written**: no whole number in it is too long for a numeral. -/
def isWritable : Json → Bool
  | .int i => fitsNumeral i
  | .arr xs => itemsWritable xs
  | .obj ms => membersWritable ms
  | _ => true

/-- Whether the items of an array can be written. -/
def itemsWritable : List Json → Bool
  | [] => true
  | x :: xs => isWritable x && itemsWritable xs

/-- Whether the members of an object can be written. -/
def membersWritable : List (Text × Json) → Bool
  | [] => true
  | (_, v) :: ms => isWritable v && membersWritable ms

end

end Roleplay.Json
