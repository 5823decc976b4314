import Roleplay.Text.Basic

/-!
# Text as bytes

Reading text from bytes in the transformation formats of Unicode, with the place and the reason
of the first fault, and writing it in UTF-8. Half of a surrogate pair is a fault in UTF-8 unless
it is let through; let through, it reads as the replacement character.

## Main definitions

* `Encoding`, `Encoding.name`: the formats
* `DecodeFault`, `DecodeFault.message`: what cannot be read, where and why
* `Encoding.decode`: bytes to text
* `Text.utf8`: text to bytes
* `Text.ofBytesLossy`: bytes to text, each fault read as the replacement character
-/

namespace Roleplay

/-- The transformation formats, by unit and order of bytes. -/
inductive Encoding
  | utf8
  | utf16le
  | utf16be
  | utf32le
  | utf32be
deriving DecidableEq, Repr

/-- The name of a format. -/
def Encoding.name : Encoding → Text
  | .utf8 => "utf-8"
  | .utf16le => "utf-16-le"
  | .utf16be => "utf-16-be"
  | .utf32le => "utf-32-le"
  | .utf32be => "utf-32-be"

/-- Why bytes cannot be read. -/
inductive DecodeReason
  | invalidStart
  | invalidContinuation
  | unexpectedEnd
  | truncated
  | outOfRange
deriving DecidableEq, Repr

/-- The wording of a reason. -/
def DecodeReason.message : DecodeReason → Text
  | .invalidStart => "invalid start byte"
  | .invalidContinuation => "invalid continuation byte"
  | .unexpectedEnd => "unexpected end of data"
  | .truncated => "truncated data"
  | .outOfRange => "code point not in range(0x110000)"

/-- **Bytes that cannot be read**: the first of them, their place and number, and the reason. -/
structure DecodeFault where
  encoding : Encoding
  byte : UInt8
  start : Nat
  count : Nat
  reason : DecodeReason
deriving DecidableEq, Repr

/-- The wording of a fault. -/
def DecodeFault.message (f : DecodeFault) : Text :=
  let place : Text :=
    if f.count = 1 then
      "byte 0x" ++ Text.hex 2 f.byte.toNat ++ " in position ".toList ++ Text.ofNat f.start
    else
      "bytes in position " ++ Text.ofNat f.start ++ "-".toList
        ++ Text.ofNat (f.start + f.count - 1)
  "'" ++ f.encoding.name ++ "' codec can't decode ".toList ++ place ++ ": ".toList
    ++ f.reason.message

/-- The character that stands for what cannot be read. -/
def replacement : Char := '\uFFFD'

/-- The character of a code point; half of a surrogate pair has none of its own. -/
def charOfPoint (n : Nat) : Char :=
  if 0xD800 ≤ n && n ≤ 0xDFFF then replacement else Char.ofNat n

namespace Utf8

/-- Whether a byte continues a sequence. -/
def continues (b : UInt8) : Bool :=
  b.toNat / 64 == 2

/-- What the bytes begin with: a code point and the number of its bytes, or the reason and the
number of the bytes at fault. -/
def first (surrogates : Bool) : List UInt8 → Except (DecodeReason × Nat) (Nat × Nat)
  | [] => .error (.unexpectedEnd, 0)
  | b :: rest =>
    let n := b.toNat
    if n < 0x80 then .ok (n, 1)
    else if n < 0xC2 then .error (.invalidStart, 1)
    else if n < 0xE0 then
      match rest with
      | [] => .error (.unexpectedEnd, 1)
      | c :: _ =>
        if continues c then .ok (n % 32 * 64 + c.toNat % 64, 2) else .error (.invalidContinuation, 1)
    else if n < 0xF0 then
      let fits := fun c : UInt8 => continues c
        && !(n == 0xE0 && c.toNat < 0xA0) && !(n == 0xED && c.toNat ≥ 0xA0 && !surrogates)
      match rest with
      | [] => .error (.unexpectedEnd, 1)
      | [c] =>
        if fits c && !(n == 0xED && c.toNat ≥ 0xA0) then .error (.unexpectedEnd, 2)
        else .error (.invalidContinuation, 1)
      | c :: d :: _ =>
        if !fits c then .error (.invalidContinuation, 1)
        else if continues d then .ok (n % 16 * 4096 + c.toNat % 64 * 64 + d.toNat % 64, 3)
        else if n == 0xED && c.toNat ≥ 0xA0 then .error (.invalidContinuation, 1)
        else .error (.invalidContinuation, 2)
    else if n < 0xF5 then
      let fits := fun c : UInt8 => continues c
        && !(n == 0xF0 && c.toNat < 0x90) && !(n == 0xF4 && c.toNat ≥ 0x90)
      match rest with
      | [] => .error (.unexpectedEnd, 1)
      | [c] => if fits c then .error (.unexpectedEnd, 2) else .error (.invalidContinuation, 1)
      | [c, d] =>
        if !fits c then .error (.invalidContinuation, 1)
        else if continues d then .error (.unexpectedEnd, 3)
        else .error (.invalidContinuation, 2)
      | c :: d :: e :: _ =>
        if !fits c then .error (.invalidContinuation, 1)
        else if !continues d then .error (.invalidContinuation, 2)
        else if !continues e then .error (.invalidContinuation, 3)
        else .ok (n % 8 * 262144 + c.toNat % 64 * 4096 + d.toNat % 64 * 64 + e.toNat % 64, 4)
    else .error (.invalidStart, 1)

/-- Text from bytes. The first `skip` bytes belong to the character before them; `place` is the
position of the first byte. -/
def decodeFrom (surrogates : Bool) : (place skip : Nat) → List UInt8 → Except DecodeFault Text
  | _, _, [] => .ok []
  | place, skip + 1, _ :: bs => decodeFrom surrogates (place + 1) skip bs
  | place, 0, b :: bs =>
    match first surrogates (b :: bs) with
    | .ok (n, k) => (charOfPoint n :: ·) <$> decodeFrom surrogates (place + 1) (k - 1) bs
    | .error (reason, k) => .error ⟨.utf8, b, place, k, reason⟩

/-- The bytes of a character. -/
def encodeChar (c : Char) : List UInt8 :=
  let n := c.toNat
  if n < 0x80 then [n.toUInt8]
  else if n < 0x800 then [(0xC0 + n / 64).toUInt8, (0x80 + n % 64).toUInt8]
  else if n < 0x10000 then
    [(0xE0 + n / 4096).toUInt8, (0x80 + n / 64 % 64).toUInt8, (0x80 + n % 64).toUInt8]
  else
    [(0xF0 + n / 262144).toUInt8, (0x80 + n / 4096 % 64).toUInt8, (0x80 + n / 64 % 64).toUInt8,
      (0x80 + n % 64).toUInt8]

/-- Text from bytes, each run of bytes at fault read as one replacement character. -/
def decodeLossyFrom : (skip : Nat) → List UInt8 → Text
  | _, [] => []
  | skip + 1, _ :: bs => decodeLossyFrom skip bs
  | 0, b :: bs =>
    match first false (b :: bs) with
    | .ok (n, k) => charOfPoint n :: decodeLossyFrom (k - 1) bs
    | .error (_, k) => replacement :: decodeLossyFrom (k - 1) bs

end Utf8

namespace Utf16

/-- Text from units of two bytes, `unit` giving the value of two bytes in their order. -/
def decodeFrom (encoding : Encoding) (unit : UInt8 → UInt8 → Nat) :
    (place : Nat) → List UInt8 → Except DecodeFault Text
  | _, [] => .ok []
  | place, [b] => .error ⟨encoding, b, place, 1, .truncated⟩
  | place, a :: b :: c :: d :: bs =>
    let high := unit a b
    let low := unit c d
    if 0xD800 ≤ high && high ≤ 0xDBFF && 0xDC00 ≤ low && low ≤ 0xDFFF then
      (Char.ofNat (0x10000 + (high - 0xD800) * 0x400 + (low - 0xDC00)) :: ·)
        <$> decodeFrom encoding unit (place + 4) bs
    else (charOfPoint high :: ·) <$> decodeFrom encoding unit (place + 2) (c :: d :: bs)
  | place, a :: b :: bs => (charOfPoint (unit a b) :: ·) <$> decodeFrom encoding unit (place + 2) bs

end Utf16

namespace Utf32

/-- Text from units of four bytes, `unit` giving the value of four bytes in their order. -/
def decodeFrom (encoding : Encoding) (unit : UInt8 → UInt8 → UInt8 → UInt8 → Nat) :
    (place : Nat) → List UInt8 → Except DecodeFault Text
  | _, [] => .ok []
  | place, a :: b :: c :: d :: bs =>
    let n := unit a b c d
    if n < 0x110000 then (charOfPoint n :: ·) <$> decodeFrom encoding unit (place + 4) bs
    else .error ⟨encoding, a, place, 4, .outOfRange⟩
  | place, a :: bs => .error ⟨encoding, a, place, (a :: bs).length, .truncated⟩

end Utf32

/-- **Text from bytes**, the first of them at position `place`. -/
def Encoding.decodeAt (place : Nat) (bytes : List UInt8) : Encoding → Except DecodeFault Text
  | .utf8 => Utf8.decodeFrom true place 0 bytes
  | .utf16le => Utf16.decodeFrom .utf16le (fun a b => a.toNat + 256 * b.toNat) place bytes
  | .utf16be => Utf16.decodeFrom .utf16be (fun a b => 256 * a.toNat + b.toNat) place bytes
  | .utf32le => Utf32.decodeFrom .utf32le
      (fun a b c d => a.toNat + 256 * (b.toNat + 256 * (c.toNat + 256 * d.toNat))) place bytes
  | .utf32be => Utf32.decodeFrom .utf32be
      (fun a b c d => d.toNat + 256 * (c.toNat + 256 * (b.toNat + 256 * a.toNat))) place bytes

/-- **Text from UTF-8**, no half of a surrogate pair let through. -/
def Text.ofUtf8 (bytes : List UInt8) : Except DecodeFault Text :=
  Utf8.decodeFrom false 0 0 bytes

/-- Text from UTF-8, each fault read as the replacement character. -/
def Text.ofUtf8Lossy (bytes : List UInt8) : Text :=
  Utf8.decodeLossyFrom 0 bytes

/-- **The bytes of a text** in UTF-8. -/
def Text.utf8 (t : Text) : List UInt8 :=
  t.flatMap Utf8.encodeChar

end Roleplay
