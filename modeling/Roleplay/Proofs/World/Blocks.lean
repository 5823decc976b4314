import Roleplay.Proofs.Text.Lines
import Roleplay.Proofs.World.Entities
import Roleplay.World.Recovery

/-!
# Blocks in any order

A text that begins with the header of an entity is read in the same way wherever it stands: the
header closes what is open and selects its entity, and from there on every line means what it means
in the text alone. The lines change no entity but those that the text alone tells of. So two such
texts that tell of different entities can change places.

## Main definitions

* `Text.BeginsBlock`: a text that begins with a header that selects an entity
* `WorldState.beside`: the entities of two states

## Main results

* `Position.classify_header`: a header selects its entity wherever it stands
* `WorldState.record_beside`, `readLines_beside`: one line and all lines leave other entities alone
* `WorldState.recover_append`: the state of two texts
* `WorldState.recover_swap`: texts that tell of different entities can change places
-/

namespace Roleplay

open Text

variable {names : EntityNames} {labels : Labels}

/-- **The entities of two states**, those of the first in front. -/
def WorldState.beside (s u : WorldState) : WorldState :=
  ⟨s.entities ++ u.entities⟩

/-! ## Headers -/

/-- **A text that begins with a block**: its first line is neither indented nor bulleted, and is a
header that selects an entity. -/
def Text.BeginsBlock (names : EntityNames) (t : Text) : Prop :=
  ∃ l ls e, t.lines = l :: ls ∧ l.head?.any isBlank = false ∧ dropBullet? l.strip = none ∧
    Position.start.classify names l = .header e

/-- Only a label with nothing after its colon is a header. -/
theorem Position.classifyPair_ne_header (p : Position) (label value e : Text) :
    p.classifyPair label value ≠ .header e := by
  rw [classifyPair]
  split <;> exact Line.noConfusion

/-- Where nothing is selected, a header is one by its label alone. -/
theorem Position.classifyHeader_eq_header {indented : Bool} {label e : Text}
    (h : Position.start.classifyHeader names indented label = .header e) :
    names.select? label = some e := by
  rw [classifyHeader] at h
  split at h
  · cases h
  · split at h
    · next hs => exact hs.trans (congrArg some (Line.header.inj h))
    · cases h
    · cases h

/-- **A header selects its entity wherever it stands**, unless it is indented or bulleted: it could
then be an item of an open list. -/
theorem Position.classify_header {l e : Text} (hindent : l.head?.any isBlank = false)
    (hbullet : dropBullet? l.strip = none) (h : Position.start.classify names l = .header e)
    (p : Position) : p.classify names l = .header e := by
  simp only [classify, hindent, hbullet, Option.getD_none] at h ⊢
  split at h
  · cases h
  next hne =>
  rw [if_neg hne]
  cases hsplit : splitColon? l.strip with
  | none =>
    rw [hsplit] at h
    cases h
  | some sides =>
    obtain ⟨label, value⟩ := sides
    simp only [hsplit] at h ⊢
    split at h
    · cases h
    next hlabel =>
    rw [if_neg hlabel]
    split at h
    · -- nothing stands after the colon, and the label decides
      next hvalue =>
      have hs := classifyHeader_eq_header h
      rw [if_pos hvalue, classifyHeader]
      obtain ⟨_ | e', _ | l'⟩ := p <;> simp [hs]
    · exact absurd h (classifyPair_ne_header _ _ _ _)

/-! ## Other entities -/

namespace WorldState

variable {s u : WorldState}

theorem modify_beside {key : Text} (h : key ∉ s.keys) (f : Entity → Entity) :
    (s.beside u).modify key f = s.beside (u.modify key f) := by
  obtain ⟨es⟩ := s
  have hin : modifyIn key f (es ++ u.entities) = es ++ modifyIn key f u.entities := by
    induction es with
    | nil => rfl
    | cons p es ih =>
      simp only [keys, List.map_cons, List.mem_cons, not_or] at h
      rw [List.cons_append, modifyIn, if_neg (Ne.symm h.1), ih h.2, List.cons_append]
  exact congrArg mk hin

theorem find?_beside (s u : WorldState) (key : Text) :
    (s.beside u).find? key = (s.find? key).or (u.find? key) :=
  List.lookup_append

/-- No line loses an entity. -/
theorem keys_subset_record (s : WorldState) (line : Line) : s.keys ⊆ (s.record line).keys := by
  cases line with
  | opening e l => exact keys_subset_modify s e _
  | item e l i => exact keys_subset_modify s e _
  | text e n v => exact keys_subset_modify s e _
  | _ => exact List.Subset.refl _

/-- **A line leaves the entities alone** that are not in the state after it. -/
theorem record_beside {line : Line} (h : s.keys.Disjoint (u.record line).keys) :
    (s.beside u).record line = s.beside (u.record line) := by
  -- a line that changes an entity leaves it in the state, so the entity is none of the others
  cases line with
  | opening e l => exact modify_beside (fun he => h he (mem_keys_modify u e _)) _
  | item e l i => exact modify_beside (fun he => h he (mem_keys_modify u e _)) _
  | text e n v => exact modify_beside (fun he => h he (mem_keys_modify u e _)) _
  | _ => rfl

end WorldState

theorem keys_subset_readLines (p : Position) (s : WorldState) (ls : List Text) :
    s.keys ⊆ (ls.foldl (readLine names) (p, s)).2.keys := by
  induction ls generalizing p s with
  | nil => exact List.Subset.refl _
  | cons l ls ih => exact List.Subset.trans (s.keys_subset_record _) (ih _ _)

/-- **Lines leave the entities alone** that are not in the state after them. -/
theorem readLines_beside {s u : WorldState} {ls : List Text} {p : Position}
    (h : s.keys.Disjoint (ls.foldl (readLine names) (p, u)).2.keys) :
    ls.foldl (readLine names) (p, s.beside u) =
      ((ls.foldl (readLine names) (p, u)).1, s.beside (ls.foldl (readLine names) (p, u)).2) := by
  induction ls generalizing p u with
  | nil => rfl
  | cons l ls ih =>
    -- what the first line leaves is left at the end, so it is none of the others either
    have hfirst : s.keys.Disjoint (u.record (p.classify names l)).keys :=
      fun e he hu => h he (keys_subset_readLines _ _ ls hu)
    have hline : readLine names (p, s.beside u) l =
        (p.after (p.classify names l), s.beside (u.record (p.classify names l))) :=
      congrArg (Prod.mk _) (WorldState.record_beside hfirst)
    rw [List.foldl_cons, hline, ih h]
    rfl

/-! ## Two texts -/

theorem readLines_empty {gap : List Text} (h : ∀ l ∈ gap, l = []) (p : Position) (s : WorldState) :
    ∃ p', gap.foldl (readLine names) (p, s) = (p', s) := by
  induction gap generalizing p with
  | nil => exact ⟨p, rfl⟩
  | cons l gap ih =>
    rw [h l List.mem_cons_self]
    exact ih (fun m hm => h m (List.mem_cons_of_mem l hm)) _

/-- The lines of a text that begins with a block are read alike wherever the reading stands. -/
theorem Text.BeginsBlock.readLines {t : Text} (h : t.BeginsBlock names) (p : Position)
    (s : WorldState) :
    t.lines.foldl (readLine names) (p, s) = t.lines.foldl (readLine names) (.start, s) := by
  obtain ⟨l, ls, e, hlines, hindent, hbullet, hheader⟩ := h
  have hp := Position.classify_header hindent hbullet hheader p
  simp only [hlines, List.foldl_cons, readLine, hp, hheader, Position.after]

namespace WorldState

/-- **The state of two texts**, one behind the other, has the entities of both, when they tell of
different ones and the second begins with a block. -/
theorem recover_append {a b : Text} (hb : b.BeginsBlock (.ofLabels labels))
    (hkeys : (recover labels a).keys.Disjoint (recover labels b).keys) :
    recover labels (a ++ '\n' :: b) = (recover labels a).beside (recover labels b) := by
  obtain ⟨gap, hgap, hlines⟩ := exists_lines_append_newline a b
  obtain ⟨p, hp⟩ : ∃ p, gap.foldl (readLine (.ofLabels labels))
      ((a.lines.foldl (readLine (.ofLabels labels)) (.start, .empty)).1, recover labels a) =
        (p, recover labels a) :=
    readLines_empty hgap _ _
  have hfirst : (a.lines ++ gap).foldl (readLine (.ofLabels labels)) (.start, .empty) =
      (p, (recover labels a).beside .empty) := by
    rw [List.foldl_append, beside, empty, List.append_nil]
    exact hp
  rw [recover, hlines, ← List.append_assoc, List.foldl_append, hfirst, hb.readLines,
    readLines_beside hkeys]
  rfl

/-- **Texts that tell of different entities can change places.** In either order the same entities
are recovered, each with the attributes that it has in the one text that tells of it; only the order
of the entities is another. -/
theorem recover_swap {a b : Text} (ha : a.BeginsBlock (.ofLabels labels))
    (hb : b.BeginsBlock (.ofLabels labels))
    (hkeys : (recover labels a).keys.Disjoint (recover labels b).keys) :
    let ab := recover labels (a ++ '\n' :: b)
    let ba := recover labels (b ++ '\n' :: a)
    ab.entities.Perm ba.entities ∧
      ∀ key, ab.find? key = ((recover labels a).find? key).or ((recover labels b).find? key) ∧
        ba.find? key = ((recover labels a).find? key).or ((recover labels b).find? key) := by
  intro ab ba
  have hab : ab = (recover labels a).beside (recover labels b) := recover_append hb hkeys
  have hba : ba = (recover labels b).beside (recover labels a) :=
    recover_append ha (List.disjoint_comm.mp hkeys)
  rw [hab, hba]
  refine ⟨List.perm_append_comm, fun key => ⟨find?_beside _ _ key, ?_⟩⟩
  rw [find?_beside]
  -- at most one of the two texts tells of the entity
  cases hfound : (recover labels a).find? key with
  | none => rw [Option.or_none, Option.none_or]
  | some e =>
    have hnot : (recover labels b).find? key = none :=
      find?_eq_none_iff.mpr (hkeys (mem_keys_of_find?_eq_some hfound))
    rw [hnot, Option.none_or, Option.or_none]

/-- A text that ends within an open list, and one that selects two entities and ends in a bulleted
list. -/
theorem recover_swap_open :
    let labels : Labels := [("character", "Aria"), ("user", "Jordan"), ("place", "The Old Mill")]
    let a : Text := "Aria:\nmood: shy\nclothes:\n  hat:"
    let b : Text := "**Jordan:**\nmood: calm\nThe Old Mill:\nsacks:\n- flour: two\r"
    (recover labels (a ++ '\n' :: b)).entities.Perm (recover labels (b ++ '\n' :: a)).entities ∧
      (recover labels (b ++ '\n' :: a)).keys = ["user", "place", "character"] := by
  intro labels a b
  have ha : a.BeginsBlock (.ofLabels labels) := ⟨_, _, "character", rfl, rfl, rfl, by decide⟩
  have hb : b.BeginsBlock (.ofLabels labels) := ⟨_, _, "user", rfl, rfl, rfl, by decide⟩
  have hkeys : ∀ key ∈ (recover labels a).keys, key ∉ (recover labels b).keys := by decide
  exact ⟨(recover_swap ha hb fun key h => hkeys key h).1, by decide⟩

end WorldState

end Roleplay
