import Roleplay.Text.Basic

/-!
# Entries in order

A map from texts to values that keeps the order in which the keys came.

## Main definitions

* `Entries α`: keys with their values
* `Entries.put k v es`: the entries with `v` under `k`, in the place of an earlier value or at the
  end
* `Entries.merge es fs`: the entries of `fs` put over those of `es`
* `Entries.ofList`: the entries of a list, of equal keys the last value in the first place
-/

namespace Roleplay

/-- **Keys with their values**, in their order. -/
abbrev Entries (α : Type) := List (Text × α)

namespace Entries

variable {α : Type}

/-- The value of a key. -/
def get? (es : Entries α) (k : Text) : Option α :=
  es.lookup k

/-- The entries with a value under a key: in the place of an earlier value, or at the end. -/
def put (es : Entries α) (k : Text) (v : α) : Entries α :=
  match es with
  | [] => [(k, v)]
  | (k', v') :: es => if k' = k then (k, v) :: es else (k', v') :: put es k v

/-- The entries of the second list put over those of the first. -/
def merge (es fs : Entries α) : Entries α :=
  fs.foldl (fun es f => es.put f.1 f.2) es

/-- The entries of a list, of equal keys the last value in the first place. -/
def ofList (fs : List (Text × α)) : Entries α :=
  merge [] fs

/-- The entries without those of a key. -/
def remove (es : Entries α) (k : Text) : Entries α :=
  es.filter (·.1 ≠ k)

end Entries

end Roleplay
