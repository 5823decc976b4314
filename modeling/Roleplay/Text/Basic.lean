/-!
# Text

A text is the list of its Unicode characters. Every function of the library that reads or writes
text is a function on this list, so that it recurses on the text itself and its laws are laws of
lists. A string literal stands for its characters.

## Main definitions

* `Text`: the list of characters
* `Text.dropPrefix? t p`: what follows `p`, when `t` begins with it
* `Text.cut? t sep`: what stands before and after the first `sep` in `t`
* `Text.splitOn t c`: the pieces of `t` between the characters `c`
* `Text.stripWhere p t`: `t` without the characters that satisfy `p` at either end
* `Text.ofNat`, `Text.ofInt`: decimal numerals

## Main results

* `Text.eq_of_cut?_eq_some`: the two sides and the separator make up the text
-/

namespace Roleplay

/-- **Text**: a list of Unicode characters. -/
abbrev Text := List Char

/-- A string literal stands for its characters. -/
instance : Coe String Text := ⟨String.toList⟩

/-- Texts are equal when the test of their characters says so. -/
instance : LawfulBEq Text := inferInstance

namespace Text

/-- What follows `p`, when the text begins with `p`. -/
def dropPrefix? : (t p : Text) → Option Text
  | t, [] => some t
  | [], _ :: _ => none
  | d :: t, c :: p => if c = d then dropPrefix? t p else none

theorem eq_of_dropPrefix?_eq_some {t p r : Text} (h : t.dropPrefix? p = some r) : t = p ++ r := by
  induction p generalizing t with
  | nil => simpa [dropPrefix?] using h
  | cons c p ih =>
    cases t with
    | nil => simp [dropPrefix?] at h
    | cons d t =>
      rw [dropPrefix?] at h
      split at h
      · next hcd => rw [hcd, ih h, List.cons_append]
      · cases h

@[simp] theorem dropPrefix?_append (p r : Text) : Text.dropPrefix? (p ++ r) p = some r := by
  induction p with
  | nil => cases r <;> rfl
  | cons c p ih => simp [dropPrefix?, ih]

/-- Whether the text begins with `p`. -/
def startsWith (t p : Text) : Bool :=
  (t.dropPrefix? p).isSome

/-- **The first cut** at a separator: what stands before its first occurrence and what stands
after it. -/
def cut? : (t sep : Text) → Option (Text × Text)
  | [], sep => if sep = [] then some ([], []) else none
  | c :: t, sep =>
    match dropPrefix? (c :: t) sep with
    | some r => some ([], r)
    | none => (cut? t sep).map fun (a, b) => (c :: a, b)

/-- The two sides of a cut and the separator make up the text. -/
theorem eq_of_cut?_eq_some {t sep a b : Text} (h : t.cut? sep = some (a, b)) :
    t = a ++ sep ++ b := by
  induction t generalizing a b with
  | nil =>
    rw [cut?] at h
    split at h
    · next hs => simp_all
    · cases h
  | cons c t ih =>
    rw [cut?] at h
    split at h
    · next r hr =>
      obtain ⟨rfl, rfl⟩ := Prod.mk.inj (Option.some.inj h)
      simpa using eq_of_dropPrefix?_eq_some hr
    · obtain ⟨⟨a', b'⟩, hc, he⟩ := Option.map_eq_some_iff.1 h
      obtain ⟨rfl, rfl⟩ := Prod.mk.inj he
      rw [ih hc]; simp

/-- Whether `part` occurs in the text. -/
def contains (t part : Text) : Bool :=
  (t.cut? part).isSome

/-- The pieces of a text between the characters `sep`; always one more than there are of them. -/
def splitOn : (t : Text) → (sep : Char) → List Text
  | [], _ => [[]]
  | c :: t, sep =>
    if c = sep then [] :: splitOn t sep
    else match splitOn t sep with
      | [] => [[c]]
      | p :: ps => (c :: p) :: ps

/-- The pieces with a separator between each two. -/
def join (sep : Text) (ts : List Text) : Text :=
  sep.intercalate ts

/-- A text without the characters at its end that satisfy `p`. -/
def stripEndWhere (p : Char → Bool) : Text → Text
  | [] => []
  | c :: t =>
    match stripEndWhere p t with
    | [] => if p c then [] else [c]
    | d :: r => c :: d :: r

/-- A text without the characters at either end that satisfy `p`. -/
def stripWhere (p : Char → Bool) (t : Text) : Text :=
  stripEndWhere p (t.dropWhile p)

/-- The first of two texts that is not empty. -/
def orElse (t u : Text) : Text :=
  if t.isEmpty then u else t

/-- The text that is there, the empty one otherwise. -/
def orEmpty (t : Option Text) : Text :=
  t.getD []

/-- The text that is there and not empty, the other one otherwise. -/
def given (t : Option Text) (u : Text) : Text :=
  orElse (orEmpty t) u

/-- A decimal numeral. -/
def ofNat (n : Nat) : Text :=
  Nat.toDigits 10 n

/-- A decimal numeral with its sign. -/
def ofInt : Int → Text
  | .ofNat n => ofNat n
  | .negSucc n => '-' :: ofNat (n + 1)

/-- A numeral padded with zeros on the left to at least `width` characters. -/
def padLeft (width : Nat) (t : Text) : Text :=
  List.replicate (width - t.length) '0' ++ t

/-- The hexadecimal numeral of `n` in small digits, at least `width` of them. -/
def hex (width n : Nat) : Text :=
  padLeft width (Nat.toDigits 16 n)

/-- Each maximal run of characters that satisfy `p` becomes the one character `r`. -/
def squeeze (p : Char → Bool) (r : Char) : Text → Text
  | [] => []
  | [c] => if p c then [r] else [c]
  | c :: d :: t =>
    if p c then
      if p d then squeeze p r (d :: t) else r :: squeeze p r (d :: t)
    else c :: squeeze p r (d :: t)

/-- The order of texts by the code points of their characters. -/
def le : (t u : Text) → Bool
  | [], _ => true
  | _ :: _, [] => false
  | c :: t, d :: u => if c = d then le t u else c.toNat < d.toNat

end Text

end Roleplay
