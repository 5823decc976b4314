import Roleplay.Text.Basic

/-!
# Paths

A path is a list of names from a starting point: the working directory, the root, or the root with
two slashes, which is kept apart. Empty names and points are no steps and are dropped as a path is
read; two points are kept, since what they lead to depends on the tree.

## Main definitions

* `Path`, `Path.ofText`, `Path.text`: paths and their texts
* `Path.join p t`: the path `t` seen from `p`
* `Path.name`, `Path.stem`, `Path.parent`: the parts of a path
-/

namespace Roleplay

/-- **A path**: the number of slashes it begins with, at most two, and its names. -/
structure Path where
  slashes : Nat
  names : List Text
deriving DecidableEq, Repr, Inhabited

namespace Path

/-- The path of the working directory. -/
def here : Path := ⟨0, []⟩

/-- The number of slashes that count: three and more are one. -/
def leadingSlashes (t : Text) : Nat :=
  let n := (t.takeWhile (· = '/')).length
  if n ≤ 2 then n else 1

/-- **A path from its text.** -/
def ofText (t : Text) : Path :=
  ⟨leadingSlashes t, (t.splitOn '/').filter fun n => n ≠ [] ∧ n ≠ ['.']⟩

/-- **The text of a path**, a point when there is nothing in it. -/
def text (p : Path) : Text :=
  if p.slashes = 0 ∧ p.names = [] then ['.']
  else List.replicate p.slashes '/' ++ Text.join ['/'] p.names

/-- **A path seen from another one**; one from the root stands for itself. -/
def join (p : Path) (t : Text) : Path :=
  let q := ofText t
  if q.slashes = 0 then ⟨p.slashes, p.names ++ q.names⟩ else q

/-- The last name. -/
def name (p : Path) : Text :=
  p.names.getLast?.getD []

/-- The path without its last name. -/
def parent (p : Path) : Path :=
  { p with names := p.names.dropLast }

/-- A name without its ending; a point at either end of the name begins no ending. -/
def stemOf (name : Text) : Text :=
  let back := name.reverse
  let ending := back.takeWhile (· ≠ '.')
  let stem := ((back.drop ending.length).drop 1).reverse
  if ending.isEmpty ∨ stem.isEmpty then name else stem

/-- The last name without its ending. -/
def stem (p : Path) : Text :=
  stemOf p.name

end Path

end Roleplay
