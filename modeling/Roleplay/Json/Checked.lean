import Roleplay.Json.Basic

/-!
# Checking a value field by field

Reading a record from a JSON value reports every field that fails, each by its path, and not only
the first. A record is therefore read by an applicative functor that joins the faults of both
sides; it is no monad.

## Main definitions

* `FieldPath`: the names and positions that lead to a field
* `Checked α`: a value, or the paths of the fields that fail
* `Members.required`, `Members.optional`: a field under the first of its names that is there
-/

namespace Roleplay

/-- **The way to a field**: names of members and positions of items, from the outside in. -/
abbrev FieldPath := List Text

/-- The path with a point between each two steps. -/
def FieldPath.dotted (p : FieldPath) : Text :=
  Text.join ['.'] p

/-- **A value that was checked**: the value, or the fields that fail. -/
inductive Checked (α : Type)
  | valid (a : α)
  | invalid (fields : List FieldPath)
deriving Repr

namespace Checked

variable {α β : Type}

/-- A checked value changed by `f`. -/
def map (f : α → β) : Checked α → Checked β
  | valid a => valid (f a)
  | invalid fs => invalid fs

/-- Both sides checked, the faults of both joined. -/
def apply : Checked (α → β) → Checked α → Checked β
  | valid f, valid a => valid (f a)
  | valid _, invalid fs => invalid fs
  | invalid fs, valid _ => invalid fs
  | invalid fs, invalid gs => invalid (fs ++ gs)

instance : Applicative Checked where
  pure := valid
  map := map
  seq f a := apply f (a ())

/-- The faults seen from outside the field `step`. -/
def under (step : Text) : Checked α → Checked α
  | valid a => valid a
  | invalid fs => invalid (fs.map (step :: ·))

/-- A value that may be missing; the fault is the value itself. -/
def ofOption : Option α → Checked α
  | some a => valid a
  | none => invalid [[]]

/-- A further check on a value that holds; its fault is the value itself. -/
def ensure (p : α → Bool) : Checked α → Checked α
  | valid a => if p a then valid a else invalid [[]]
  | invalid fs => invalid fs

/-- The value that holds. -/
def toOption : Checked α → Option α
  | valid a => some a
  | invalid _ => none

/-- The paths of the failing fields in the order of their texts, each once. -/
def report (fs : List FieldPath) : List Text :=
  (fs.map FieldPath.dotted).foldl insert []
where
  /-- A text put into a rising list, unless it is there. -/
  insert : List Text → Text → List Text
    | [], t => [t]
    | u :: us, t => if t = u then u :: us else if Text.le t u then t :: u :: us else u :: insert us t

/-- Every item of a list checked; an item's position leads to its faults. -/
def items (read : Json → Checked α) : (position : Nat) → List Json → Checked (List α)
  | _, [] => valid []
  | i, x :: xs => apply (map List.cons ((read x).under (Text.ofNat i))) (items read (i + 1) xs)

/-- Every member of an object checked; its name leads to its faults. -/
def members (read : Json → Checked α) : Members → Checked (List (Text × α))
  | [] => valid []
  | (k, v) :: ms => apply (map (fun a as => (k, a) :: as) ((read v).under k)) (members read ms)

/-- An array checked item by item. -/
def array (read : Json → Checked α) : Json → Checked (List α)
  | .arr xs => items read 0 xs
  | _ => invalid [[]]

/-- Null, or a value that is checked. -/
def nullable (read : Json → Checked α) : Json → Checked (Option α)
  | .null => valid none
  | v => map some (read v)

/-- An object checked as a whole. -/
def object (read : Members → Checked α) : Json → Checked α
  | .obj ms => read ms
  | _ => invalid [[]]

end Checked

namespace Members

variable {α : Type}

/-- The first of the names that is there, with its value. -/
def firstOf (names : List Text) (ms : Members) : Option (Text × Json) :=
  names.findSome? fun k => (ms.get? k).map fun v => (k, v)

/-- A field under the first of its names that is there, which must be so. -/
def required (names : List Text) (read : Json → Checked α) (ms : Members) : Checked α :=
  match ms.firstOf names with
  | some (k, v) => (read v).under k
  | none => .invalid [names.take 1]

/-- A field under the first of its names that is there, a default when none is. -/
def optional (names : List Text) (default : α) (read : Json → Checked α) (ms : Members) :
    Checked α :=
  match ms.firstOf names with
  | some (k, v) => (read v).under k
  | none => .valid default

end Members

end Roleplay
