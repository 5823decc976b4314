import Roleplay.Proofs.Json.Sound
import Roleplay.Proofs.Json.Strings
import Roleplay.Proofs.Number.Literal
import Roleplay.Proofs.Text.Lines

/-!
# Written documents are read back

A style is readable when spaces stand only where they may and every binary number is written as a
value that can be read. What is written in such a style spells the sound value that it was written
for, up to what the style makes of binary numbers, so it is read back: the styles with names for
what is not finite keep every number, the compact one has null in the place of what is not finite.

## Main definitions

* `Json.mapFloats`: a value with its binary numbers changed
* `Json.Style.Readable`: the styles in which documents can be read

## Main results

* `Json.spells_writeAt`: a written value is spelled
* `Json.read_write`: a written document is read back
* `Json.readable_compact`: the compact style has null in the place of what is not finite
* `Json.read_write_of_namedNumber`: a style with names for it gives back the document as it is
-/

namespace Roleplay.Json

/-! ## Parts of documents -/

variable {fits : Nat → Prop}

theorem allSpace_newLine (style : Style) (depth : Nat) : AllSpace (style.newLine depth) := by
  rw [Style.newLine]
  split
  · exact allSpace_nil
  · exact List.forall_mem_cons.mpr ⟨rfl, allSpace_replicate _⟩

/-- **Items with a comma and space between them.** -/
theorem spells_items {w w' : Text} (hw : AllSpace w) (hw' : AllSpace w') {parts : List Text}
    {xs : List Json} (h : List.Forall₂ (fun t x => Spells fits t (.value x)) parts xs)
    (hne : parts ≠ []) :
    Spells fits (Text.join (',' :: w) parts ++ w') (.items xs) := by
  induction h with
  | nil => exact absurd rfl hne
  | @cons t x parts xs ht htail ih =>
    by_cases hparts : parts = []
    · subst hparts
      cases htail
      rw [Text.join_singleton]
      exact .lastItem ht hw'
    · rw [Text.join_cons_of_ne_nil (',' :: w) t hparts, List.append_assoc, List.append_assoc,
        List.cons_append]
      exact .nextItem (w := []) ht allSpace_nil hw (ih hparts)

/-- **Members with a comma and space between them.** -/
theorem spells_members {w w' : Text} (hw : AllSpace w) (hw' : AllSpace w') {parts : List Text}
    {ms : List (Text × Json)}
    (h : List.Forall₂ (fun t m => Spells fits t (.member m.1 m.2)) parts ms) (hne : parts ≠ []) :
    Spells fits (Text.join (',' :: w) parts ++ w') (.members ms) := by
  induction h with
  | nil => exact absurd rfl hne
  | @cons t m parts ms ht htail ih =>
    by_cases hparts : parts = []
    · subst hparts
      cases htail
      rw [Text.join_singleton]
      exact .lastMember ht hw'
    · rw [Text.join_cons_of_ne_nil (',' :: w) t hparts, List.append_assoc, List.append_assoc,
        List.cons_append]
      exact .nextMember (w := []) ht allSpace_nil hw (ih hparts)

/-! ## Values with other numbers -/

mutual

/-- **A value with its binary numbers changed.** -/
def mapFloats (f : Binary64 → Json) : Json → Json
  | .float x => f x
  | .arr xs => .arr (mapItems f xs)
  | .obj ms => .obj (mapMembers f ms)
  | v => v

/-- Items with their binary numbers changed. -/
def mapItems (f : Binary64 → Json) : List Json → List Json
  | [] => []
  | x :: xs => mapFloats f x :: mapItems f xs

/-- Members with their binary numbers changed. -/
def mapMembers (f : Binary64 → Json) : List (Text × Json) → List (Text × Json)
  | [] => []
  | (k, v) :: ms => (k, mapFloats f v) :: mapMembers f ms

end

variable {style : Style} {f : Binary64 → Json}

theorem mapItems_eq_map (f : Binary64 → Json) (xs : List Json) :
    mapItems f xs = xs.map (mapFloats f) := by
  induction xs with
  | nil => rw [mapItems, List.map_nil]
  | cons x xs ih => rw [mapItems, ih, List.map_cons]

theorem mapMembers_eq_map (f : Binary64 → Json) (ms : List (Text × Json)) :
    mapMembers f ms = ms.map fun m => (m.1, mapFloats f m.2) := by
  induction ms with
  | nil => rw [mapMembers, List.map_nil]
  | cons m ms ih =>
    obtain ⟨k, v⟩ := m
    rw [mapMembers, ih, List.map_cons]

theorem mapFloats_arr_eq_self {xs : List Json} (h : ∀ x ∈ xs, x.mapFloats f = x) :
    (Json.arr xs).mapFloats f = .arr xs := by
  rw [mapFloats, mapItems_eq_map, List.map_congr_left h, List.map_id']

theorem mapFloats_obj_eq_self {ms : Members} (h : ∀ p ∈ ms, p.2.mapFloats f = p.2) :
    (Json.obj ms).mapFloats f = .obj ms := by
  have hmap : ms.map (fun m => (m.1, m.2.mapFloats f)) = ms.map id :=
    List.map_congr_left fun m hm => Prod.ext rfl (h m hm)
  rw [mapFloats, mapMembers_eq_map, hmap, List.map_id]

theorem writeItems_eq_map (style : Style) (depth : Nat) (xs : List Json) :
    writeItems style depth xs = xs.map (writeAt style depth) := by
  induction xs with
  | nil => rw [writeItems, List.map_nil]
  | cons x xs ih => rw [writeItems, ih, List.map_cons]

theorem writeMembers_eq_map (style : Style) (depth : Nat) (ms : List (Text × Json)) :
    writeMembers style depth ms = ms.map fun m =>
      writeString style.escapeNonAscii m.1 ++ style.colon ++ writeAt style depth m.2 := by
  induction ms with
  | nil => rw [writeMembers, List.map_nil]
  | cons m ms ih =>
    obtain ⟨k, v⟩ := m
    rw [writeMembers, ih, List.map_cons]

/-! ## Styles -/

/-- **Styles in which documents can be read**: space alone follows the separators, and a binary
number is written as a value. -/
structure Style.Readable (style : Style) (f : Binary64 → Json) : Prop where
  comma : ∃ w, AllSpace w ∧ style.comma = ',' :: w
  colon : ∃ w, AllSpace w ∧ style.colon = ':' :: w
  number : ∀ x : Binary64, x.IsCanonical →
    Spells (· ≤ Numeral.maxDigits) (style.number x) (.value (f x))

theorem Style.bracket_of_ne_nil (style : Style) (depth : Nat) (left right : Char)
    {parts : List Text} (h : parts ≠ []) :
    style.bracket depth left right parts =
      left :: (style.newLine (depth + 1)
        ++ (Text.join (style.comma ++ style.newLine (depth + 1)) parts
          ++ (style.newLine depth ++ [right]))) := by
  rw [Style.bracket, if_neg (by simpa using h)]
  simp only [List.append_assoc, List.nil_append, List.cons_append]

theorem Style.Readable.spells_array (h : style.Readable f) (depth : Nat) {parts : List Text}
    {xs : List Json}
    (hparts : List.Forall₂ (fun t x => Spells fits t (.value x)) parts xs) :
    Spells fits (style.bracket depth '[' ']' parts) (.value (.arr xs)) := by
  by_cases hne : parts = []
  · subst hne
    cases hparts
    exact .emptyArray (w := []) allSpace_nil
  · obtain ⟨w, hw, hcomma⟩ := h.comma
    have hnewLine := allSpace_newLine style
    rw [style.bracket_of_ne_nil depth _ _ hne, hcomma, List.cons_append,
      ← List.append_assoc (Text.join _ _)]
    exact .array (hnewLine _)
      (spells_items (allSpace_append hw (hnewLine _)) (hnewLine _) hparts hne)

theorem Style.Readable.spells_object (h : style.Readable f) (depth : Nat) {parts : List Text}
    {ms : Members}
    (hparts : List.Forall₂ (fun t m => Spells fits t (.member m.1 m.2)) parts ms)
    (hnodup : (ms.map (·.1)).Nodup) :
    Spells fits (style.bracket depth '\x7b' '\x7d' parts) (.value (.obj ms)) := by
  by_cases hne : parts = []
  · subst hne
    cases hparts
    exact .emptyObject (w := []) allSpace_nil
  · obtain ⟨w, hw, hcomma⟩ := h.comma
    have hnewLine := allSpace_newLine style
    rw [style.bracket_of_ne_nil depth _ _ hne, hcomma, List.cons_append,
      ← List.append_assoc (Text.join _ _), ← Entries.ofList_eq_self hnodup]
    exact .object (hnewLine _)
      (spells_members (allSpace_append hw (hnewLine _)) (hnewLine _) hparts hne)

/-! ## Documents -/

/-- **A written value is spelled**, at any depth, where it is sound. -/
theorem spells_writeAt (hstyle : style.Readable f) {v : Json} (hv : v.Sound) (depth : Nat) :
    Spells (· ≤ Numeral.maxDigits) (writeAt style depth v) (.value (v.mapFloats f)) := by
  -- the parts of a value are written one step deeper
  induction hv generalizing depth with
  | null =>
    rw [writeAt, mapFloats]
    · exact .word (by simp [words])
    all_goals simp
  | bool b =>
    rw [mapFloats]
    · cases b with
      | true =>
        rw [writeAt]
        exact .word (by simp [words])
      | false =>
        rw [writeAt]
        exact .word (by simp [words])
    all_goals simp
  | @int i h =>
    have hlength : (Text.ofNat i.natAbs).length ≤ Numeral.maxDigits :=
      (Nat.length_toDigits_le_iff (by decide) (by decide)).mpr h
    rw [writeAt, mapFloats]
    · exact .number (spellsNumber_ofInt hlength)
    all_goals simp
  | float h =>
    rw [writeAt, mapFloats]
    exact hstyle.number _ h
  | str s =>
    rw [writeAt, mapFloats]
    · exact .string (spellsString_writeString _ s)
    all_goals simp
  | @arr xs _ ih =>
    rw [writeAt, writeItems_eq_map, mapFloats, mapItems_eq_map]
    apply hstyle.spells_array
    rw [List.forall₂_map_left_iff, List.forall₂_map_right_iff, List.forall₂_same]
    exact fun x hx => ih x hx (depth + 1)
  | @obj ms hnodup _ ih =>
    obtain ⟨w, hw, hcolon⟩ := hstyle.colon
    rw [writeAt, writeMembers_eq_map, mapFloats, mapMembers_eq_map]
    apply hstyle.spells_object
    · rw [List.forall₂_map_left_iff, List.forall₂_map_right_iff, List.forall₂_same]
      intro m hm
      rw [hcolon, List.append_assoc, List.cons_append]
      exact .member (w := []) (spellsString_writeString _ m.1) allSpace_nil hw
        (ih m hm (depth + 1))
    · rw [List.map_map]
      exact hnodup

/-- **A written document is read back**, its binary numbers as the style writes them. -/
theorem read_write (hstyle : style.Readable f) {v : Json} (hv : v.Sound) :
    read (write style v) = .ok (v.mapFloats f) := by
  refine read_eq_ok_iff.mpr ⟨[], _, [], allSpace_nil, spells_writeAt hstyle hv 0, allSpace_nil, ?_⟩
  rw [List.append_nil]
  rfl

/-! ## The styles -/

/-- **A binary number in the compact style**: null in the place of what is not finite. -/
def finiteOrNull : Binary64 → Json
  | .finite negative m e => .float (.finite negative m e)
  | _ => .null

theorem readable_compact : Style.compact.Readable finiteOrNull where
  comma := ⟨[], allSpace_replicate 0, rfl⟩
  colon := ⟨[], allSpace_replicate 0, rfl⟩
  number
    | .finite negative _ _, h => .number (Layout.compact.spellsNumber_writeFinite _ negative h)
    | .nan, _ => .word List.mem_cons_self
    | .infinity _, _ => .word List.mem_cons_self

theorem spells_namedNumber {x : Binary64} (h : x.IsCanonical) :
    Spells fits (namedNumber x) (.value (.float x)) := by
  cases x with
  | finite negative m e => exact .number (Layout.wide.spellsNumber_writeFinite _ negative h)
  | nan => exact .word (w := "NaN".toList) (by simp [words])
  | infinity negative =>
    cases negative with
    | false => exact .word (w := "Infinity".toList) (by simp [words])
    | true => exact .word (w := "-Infinity".toList) (by simp [words])

/-- A value whose numbers are kept is kept. -/
theorem Sound.mapFloats_float {v : Json} (hv : v.Sound) : v.mapFloats .float = v := by
  induction hv with
  | float _ => rw [mapFloats]
  | arr _ ih => exact mapFloats_arr_eq_self ih
  | obj _ _ ih => exact mapFloats_obj_eq_self ih
  | _ =>
    rw [mapFloats]
    all_goals simp

/-- **A document in a style with names** for what is not finite is read back as it is. -/
theorem read_write_of_namedNumber (hcomma : ∃ w, AllSpace w ∧ style.comma = ',' :: w)
    (hcolon : ∃ w, AllSpace w ∧ style.colon = ':' :: w) (hnumber : style.number = namedNumber)
    {v : Json} (hv : v.Sound) : read (write style v) = .ok v := by
  have hstyle : style.Readable .float := ⟨hcomma, hcolon, fun x hx => by
    rw [hnumber]
    exact spells_namedNumber hx⟩
  rw [read_write hstyle hv, hv.mapFloats_float]

theorem read_write_plain {v : Json} (hv : v.Sound) : read (write .plain v) = .ok v :=
  read_write_of_namedNumber ⟨[' '], allSpace_replicate 1, rfl⟩ ⟨[' '], allSpace_replicate 1, rfl⟩
    rfl hv

theorem read_write_ascii {v : Json} (hv : v.Sound) : read (write .ascii v) = .ok v :=
  read_write_of_namedNumber ⟨[' '], allSpace_replicate 1, rfl⟩ ⟨[' '], allSpace_replicate 1, rfl⟩
    rfl hv

theorem read_write_indented {v : Json} (hv : v.Sound) : read (write .indented v) = .ok v :=
  read_write_of_namedNumber ⟨[], allSpace_replicate 0, rfl⟩ ⟨[' '], allSpace_replicate 1, rfl⟩
    rfl hv

/-! ## Values without binary numbers -/

/-- **Values that every style keeps**: they are sound, and no binary number stands in them. -/
structure Steady (v : Json) : Prop where
  sound : v.Sound
  mapFloats_eq : ∀ f, v.mapFloats f = v

theorem steady_str (s : Text) : Steady (.str s) :=
  ⟨.str s, fun f => by rw [mapFloats]; all_goals simp⟩

theorem Steady.arr {xs : List Json} (h : ∀ x ∈ xs, Steady x) : Steady (.arr xs) := by
  refine ⟨.arr fun x hx => (h x hx).sound, ?_⟩
  intro f
  exact mapFloats_arr_eq_self fun x hx => (h x hx).mapFloats_eq f

theorem Steady.obj {ms : Members} (hnodup : (ms.map (·.1)).Nodup) (h : ∀ p ∈ ms, Steady p.2) :
    Steady (.obj ms) := by
  refine ⟨.obj hnodup fun p hp => (h p hp).sound, ?_⟩
  intro f
  exact mapFloats_obj_eq_self fun p hp => (h p hp).mapFloats_eq f

end Roleplay.Json
