import Roleplay.Json.Basic
import Roleplay.Number.Numeral
import Roleplay.Text.Encoding

/-!
# Reading JSON

A reader by recursive descent. It takes what the standard takes and besides `NaN`, `Infinity` and
`-Infinity`; of equal names in an object the last value counts, in the place of the first. A fault
carries what was left to read, so its place is the length of what came before.

## Main definitions

* `Json.ReadFault`, `Json.ReadFault.message`: why a document cannot be read, and where
* `Json.read`: a document from text
* `Json.BytesFault`, `Json.readBytes`: a document from bytes in any of the transformation formats
-/

namespace Roleplay.Json

/-- Why a document cannot be read. -/
inductive ReadReason
  | valueExpected
  | nameExpected
  | colonExpected
  | commaExpected
  | extraData
  | openString
  | controlCharacter
  | badEscape
  | badUnicodeEscape
  | byteOrderMark
  | tooManyDigits (count : Nat)
deriving DecidableEq, Repr

/-- The wording of a reason. -/
def ReadReason.message : ReadReason → Text
  | .valueExpected => "Expecting value"
  | .nameExpected => "Expecting property name enclosed in double quotes"
  | .colonExpected => "Expecting ':' delimiter"
  | .commaExpected => "Expecting ',' delimiter"
  | .extraData => "Extra data"
  | .openString => "Unterminated string starting at"
  | .controlCharacter => "Invalid control character at"
  | .badEscape => "Invalid \\escape"
  | .badUnicodeEscape => "Invalid \\uXXXX escape"
  | .byteOrderMark => "Unexpected UTF-8 BOM (decode using utf-8-sig)"
  | .tooManyDigits n => (Numeral.Fault.tooManyDigits n).message

/-- **A document that cannot be read**: the reason, and the text before the fault. -/
structure ReadFault where
  reason : ReadReason
  before : Text
deriving DecidableEq, Repr

namespace ReadFault

/-- The line of a fault, from one. -/
def line (f : ReadFault) : Nat :=
  f.before.count '\n' + 1

/-- The column of a fault, from one. -/
def column (f : ReadFault) : Nat :=
  (f.before.reverse.takeWhile (· ≠ '\n')).length + 1

/-- The wording of a fault: the reason with its place, a numeral too long without one. -/
def message (f : ReadFault) : Text :=
  match f.reason with
  | .tooManyDigits _ => f.reason.message
  | r => r.message ++ ": line ".toList ++ Text.ofNat f.line ++ " column ".toList
      ++ Text.ofNat f.column ++ " (char ".toList ++ Text.ofNat f.before.length ++ [')']

end ReadFault

/-- What reading a part gives: the part and what follows it, or the reason and what was left. -/
abbrev Step (α : Type) := Except (ReadReason × Text) (α × Text)

/-- The part that a step reads, changed by `f`. -/
def Step.onPart {α β : Type} (f : α → β) : Step α → Step β
  | .ok (a, r) => .ok (f a, r)
  | .error e => .error e

/-- Whether a character may stand between the parts of a document. -/
def isSpace (c : Char) : Bool :=
  c == ' ' || c == '\t' || c == '\n' || c == '\r'

/-- A text without the space it begins with. -/
def skipSpace (t : Text) : Text :=
  t.dropWhile isSpace

/-- The value of a hexadecimal digit. -/
def hexDigit? (c : Char) : Option Nat :=
  if c.isDigit then some (c.toNat - '0'.toNat)
  else if 'a' ≤ c ∧ c ≤ 'f' then some (c.toNat - 'a'.toNat + 10)
  else if 'A' ≤ c ∧ c ≤ 'F' then some (c.toNat - 'A'.toNat + 10)
  else none

/-- The value of four hexadecimal digits. -/
def hexQuad? (a b c d : Char) : Option Nat := do
  return (((← hexDigit? a) * 16 + (← hexDigit? b)) * 16 + (← hexDigit? c)) * 16 + (← hexDigit? d)

/-- The character that an escape of one letter stands for. -/
def simpleEscape? : Char → Option Char
  | '"' => some '"'
  | '\\' => some '\\'
  | '/' => some '/'
  | 'b' => some '\x08'
  | 'f' => some '\x0c'
  | 'n' => some '\n'
  | 'r' => some '\r'
  | 't' => some '\t'
  | _ => none

/-- The characters of a sequence of code points in which the halves of surrogate pairs may
stand; a half by itself reads as the replacement character. -/
def joinSurrogates : List Nat → Text
  | [] => []
  | [n] => [charOfPoint n]
  | n :: m :: ns =>
    if 0xD800 ≤ n ∧ n ≤ 0xDBFF ∧ 0xDC00 ≤ m ∧ m ≤ 0xDFFF then
      Char.ofNat (0x10000 + (n - 0xD800) * 0x400 + (m - 0xDC00)) :: joinSurrogates ns
    else charOfPoint n :: joinSurrogates (m :: ns)

/-- The code points of a string up to its closing quote; `start` is the text from its opening
quote on. -/
def stringPoints (start : Text) : Text → Step (List Nat)
  | [] => .error (.openString, start)
  | '"' :: t => .ok ([], t)
  | '\\' :: 'u' :: a :: b :: c :: d :: t =>
    match hexQuad? a b c d, t with
    | some n, e :: t => (stringPoints start (e :: t)).onPart (n :: ·)
    | _, t => .error (.badUnicodeEscape, 'u' :: a :: b :: c :: d :: t)
  | '\\' :: 'u' :: t => .error (.badUnicodeEscape, 'u' :: t)
  | ['\\'] => .error (.openString, start)
  | '\\' :: c :: t =>
    match simpleEscape? c with
    | some e => (stringPoints start t).onPart (e.toNat :: ·)
    | none => .error (.badEscape, '\\' :: c :: t)
  | c :: t =>
    if c.toNat < 0x20 then .error (.controlCharacter, c :: t)
    else (stringPoints start t).onPart (c.toNat :: ·)

/-- A string, after its opening quote. -/
def string (t : Text) : Step Text :=
  (stringPoints ('"' :: t) t).onPart joinSurrogates

/-- The digits that a text begins with. -/
def leadingDigits (t : Text) : Text :=
  t.takeWhile Char.isDigit

/-- The fraction that a text begins with, its point included; empty when no digit follows the
point. -/
def leadingFraction : Text → Text
  | '.' :: t => if (leadingDigits t).isEmpty then [] else '.' :: leadingDigits t
  | _ => []

/-- The exponent that a text begins with; empty when it has no digit. -/
def leadingExponent : Text → Text
  | e :: t =>
    if e = 'e' ∨ e = 'E' then
      let (mark, ds) : Text × Text := match t with
        | '+' :: t => (['+'], leadingDigits t)
        | '-' :: t => (['-'], leadingDigits t)
        | t => ([], leadingDigits t)
      if ds.isEmpty then [] else e :: mark ++ ds
    else []
  | [] => []

/-- The whole part that a text begins with: a zero, or digits that begin with another one. -/
def leadingWhole : Text → Text
  | '0' :: _ => ['0']
  | t => leadingDigits t

/-- A number; `start` is the text from the value on. -/
def number (start : Text) : Step Json :=
  let (mark, body) : Text × Text := match start with
    | '-' :: t => (['-'], t)
    | t => ([], t)
  let whole := leadingWhole body
  let fraction := leadingFraction (body.drop whole.length)
  let exponent := leadingExponent (body.drop (whole.length + fraction.length))
  let rest := body.drop (whole.length + fraction.length + exponent.length)
  if whole.isEmpty then .error (.valueExpected, start)
  else if fraction.isEmpty && exponent.isEmpty then
    if Numeral.maxDigits < whole.length then .error (.tooManyDigits whole.length, start)
    else .ok (.int (Numeral.signed (!mark.isEmpty)
      (Numeral.ofDigits (whole.filterMap Numeral.asciiDigit?))), rest)
  else
    match Numeral.float? (mark ++ whole ++ fraction ++ exponent) with
    | some x => .ok (.float x, rest)
    | none => .error (.valueExpected, start)

/-- The values that are words. -/
def words : List (Text × Json) :=
  [("null", .null), ("true", .bool true), ("false", .bool false), ("NaN", .float .nan),
    ("Infinity", .float (.infinity false)), ("-Infinity", .float (.infinity true))]

/-- A value that is a word, and what follows it. -/
def word? (t : Text) : Option (Json × Text) :=
  words.findSome? fun (w, v) => (t.dropPrefix? w).map fun r => (v, r)

mutual

/-- **A value** and what follows it. -/
def value : (fuel : Nat) → Text → Step Json
  | 0, t => .error (.valueExpected, t)
  | _ + 1, [] => .error (.valueExpected, [])
  | fuel + 1, c :: t =>
    if c = '"' then (string t).onPart .str
    else if c = '{' then
      match skipSpace t with
      | '}' :: r => .ok (.obj [], r)
      | r => (members fuel r).onPart fun ms => .obj (Entries.ofList ms)
    else if c = '[' then
      match skipSpace t with
      | ']' :: r => .ok (.arr [], r)
      | r => (items fuel r).onPart .arr
    else match word? (c :: t) with
      | some hit => .ok hit
      | none => number (c :: t)

/-- The items of an array up to its end, at least one. -/
def items : (fuel : Nat) → Text → Step (List Json)
  | 0, t => .error (.valueExpected, t)
  | fuel + 1, t =>
    match value fuel t with
    | .error e => .error e
    | .ok (x, r) =>
      match skipSpace r with
      | ']' :: r => .ok ([x], r)
      | ',' :: r => (items fuel (skipSpace r)).onPart (x :: ·)
      | r => .error (.commaExpected, r)

/-- The members of an object up to its end, at least one. -/
def members : (fuel : Nat) → Text → Step (List (Text × Json))
  | 0, t => .error (.nameExpected, t)
  | fuel + 1, t =>
    match t with
    | '"' :: t =>
      match string t with
      | .error e => .error e
      | .ok (k, r) =>
        match skipSpace r with
        | ':' :: r =>
          match value fuel (skipSpace r) with
          | .error e => .error e
          | .ok (v, r) =>
            match skipSpace r with
            | '}' :: r => .ok ([(k, v)], r)
            | ',' :: r => (members fuel (skipSpace r)).onPart ((k, v) :: ·)
            | r => .error (.commaExpected, r)
        | r => .error (.colonExpected, r)
    | t => .error (.nameExpected, t)

end

/-- A whole document, or the reason and what was left. Every step takes a character at least, so
the fuel lasts. -/
def document (t : Text) : Except (ReadReason × Text) Json :=
  match value (2 * t.length + 2) (skipSpace t) with
  | .error e => .error e
  | .ok (v, r) => if (skipSpace r).isEmpty then .ok v else .error (.extraData, skipSpace r)

/-- A whole document; the fault carries the text before it. -/
def readDocument (t : Text) : Except ReadFault Json :=
  (document t).mapError fun (reason, rest) => ⟨reason, t.take (t.length - rest.length)⟩

/-- **Reading a document** from text, which must not begin with a byte order mark. -/
def read (t : Text) : Except ReadFault Json :=
  match t with
  | '\uFEFF' :: _ => .error ⟨.byteOrderMark, []⟩
  | t => readDocument t

/-- The transformation format of a document, from its first bytes, and the number of bytes of its
byte order mark. -/
def formatOf (bytes : List UInt8) : Encoding × Nat :=
  match bytes.map UInt8.toNat with
  | 0 :: 0 :: 0xFE :: 0xFF :: _ => (.utf32be, 4)
  | 0xFF :: 0xFE :: 0 :: 0 :: _ => (.utf32le, 4)
  | 0xFE :: 0xFF :: _ => (.utf16be, 2)
  | 0xFF :: 0xFE :: _ => (.utf16le, 2)
  | 0xEF :: 0xBB :: 0xBF :: _ => (.utf8, 3)
  | 0 :: b :: _ :: _ :: _ => (if b = 0 then .utf32be else .utf16be, 0)
  | _ :: 0 :: c :: d :: _ => (if c = 0 ∧ d = 0 then .utf32le else .utf16le, 0)
  | [0, _] => (.utf16be, 0)
  | [_, 0] => (.utf16le, 0)
  | _ => (.utf8, 0)

/-- Why bytes are no document: they are no text, or the text is none. -/
inductive BytesFault
  | decode (fault : DecodeFault)
  | read (fault : ReadFault)
deriving DecidableEq, Repr

/-- **Reading a document** from bytes. Positions count the byte order mark, but not that of
UTF-8. -/
def readBytes (bytes : List UInt8) : Except BytesFault Json :=
  let (encoding, mark) := formatOf bytes
  let place := if encoding = .utf8 then 0 else mark
  match encoding.decodeAt place (bytes.drop mark) with
  | .error f => .error (.decode f)
  | .ok t => (readDocument t).mapError .read

end Roleplay.Json
