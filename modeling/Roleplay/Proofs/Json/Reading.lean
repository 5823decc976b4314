import Roleplay.Proofs.Json.Grammar

/-!
# The reader and the grammar

The reader takes the texts of the grammar and no others, and gives the values that they spell: what
spells a part is read as it, and what is read spells it. Whole numbers count as long as they have no
more digits than a numeral may have; a text that is refused for a longer one has that many digits
after one another.

## Main definitions

* `Json.Reads`: the texts from which a part is read
* `Numeral.Overlong`: a numeral in a text is too long

## Main results

* `Json.Spells.reads`: what spells a part is read
* `Json.spelledAt`: what is read spells a part
* `Json.readDocument_eq_ok_iff`, `Json.read_eq_ok_iff`: the texts that are read are the documents
* `Json.overlong_of_readDocument`: a text that is refused for a numeral has it where the fault is
-/

namespace Roleplay

namespace Json

/-! ## What is spelled is read -/

/-- **The texts from which a part is read**: a value up to what ends a numeral, a member up to the
next mark, and what stands in brackets up to the closing one. -/
def Reads (t : Text) : Part → Prop
  | .value v => ∀ fuel, 2 * t.length ≤ fuel → ∀ r : Text, r.EndsNumeral →
      value fuel (t ++ r) = .ok (v, r)
  | .member k v => ∀ fuel, 2 * t.length ≤ fuel → ∀ r r' : Text, r.EndsNumeral →
      (skipSpace r = '\x7d' :: r' → members (fuel + 1) (t ++ r) = .ok ([(k, v)], r')) ∧
      (skipSpace r = ',' :: r' →
        members (fuel + 1) (t ++ r) = (members fuel (skipSpace r')).onPart ((k, v) :: ·))
  | .items xs => ∀ fuel, 2 * t.length < fuel → ∀ r : Text, items fuel (t ++ ']' :: r) = .ok (xs, r)
  | .members ms => ∀ fuel, 2 * t.length < fuel → ∀ r : Text,
      members fuel (t ++ '\x7d' :: r) = .ok (ms, r)

/-- A text that is read without its parts is read as a value. -/
theorem reads_of_value {t : Text} {v : Json} (hsolid : Solid t)
    (h : ∀ fuel, ∀ r : Text, r.EndsNumeral → value (fuel + 1) (t ++ r) = .ok (v, r)) :
    Reads t (.value v) := by
  obtain ⟨c, t, rfl, -⟩ := hsolid
  intro fuel hfuel r hr
  rw [List.length_cons] at hfuel
  obtain ⟨fuel, rfl⟩ : ∃ k, fuel = k + 1 := ⟨fuel - 1, by omega⟩
  exact h fuel r hr

theorem reads_word {w : Text} {v : Json} (h : (w, v) ∈ words) : Reads w (.value v) := by
  apply reads_of_value (solid_word h)
  intro fuel r _
  simp only [words, List.mem_cons, Prod.mk.injEq, List.not_mem_nil, or_false] at h
  rcases h with ⟨rfl, rfl⟩ | ⟨rfl, rfl⟩ | ⟨rfl, rfl⟩ | ⟨rfl, rfl⟩ | ⟨rfl, rfl⟩ | ⟨rfl, rfl⟩
  all_goals simp [value, word?, words, Text.dropPrefix?]

/-- A numeral is no word, and read as a number. -/
theorem value_of_digit {c : Char} (hc : c.isDigit = true) (negative : Bool) (fuel : Nat)
    (t : Text) :
    value (fuel + 1) ((if negative then ['-'] else []) ++ c :: t) =
      number ((if negative then ['-'] else []) ++ c :: t) := by
  have hne : ∀ d : Char, d.isDigit = false → c ≠ d := fun d hd => Text.ne_of_isDigit hc hd
  cases negative with
  | true =>
    show value (fuel + 1) ('-' :: c :: t) = number ('-' :: c :: t)
    have hword : word? ('-' :: c :: t) = none := by
      simp [word?, words, Text.dropPrefix?, (hne 'I' rfl).symm]
    rw [value, if_neg (by decide), if_neg (by decide), if_neg (by decide), hword]
  | false =>
    show value (fuel + 1) (c :: t) = number (c :: t)
    have hword : word? (c :: t) = none := by
      simp [word?, words, Text.dropPrefix?, (hne 'n' rfl).symm, (hne 't' rfl).symm,
        (hne 'f' rfl).symm, (hne 'N' rfl).symm, (hne 'I' rfl).symm, (hne '-' rfl).symm]
    rw [value, if_neg (hne _ rfl), if_neg (hne _ rfl), if_neg (hne _ rfl), hword]

theorem SpellsNumber.reads {t : Text} {v : Json} (h : SpellsNumber (· ≤ Numeral.maxDigits) t v) :
    Reads t (.value v) := by
  apply reads_of_value h.solid
  intro fuel r hr
  have hnumber := h.number_append hr
  obtain ⟨negative, c, s, rfl, hc⟩ := h.exists_cons
  rw [List.append_assoc] at hnumber ⊢
  exact (value_of_digit hc negative fuel (s ++ r)).trans hnumber

theorem SpellsString.reads {t s : Text} (h : SpellsString t s) : Reads t (.value (.str s)) := by
  apply reads_of_value h.solid
  intro fuel r _
  obtain ⟨u, htext, hstring⟩ := h.exists_string r
  rw [htext, value, if_pos rfl, hstring]
  rfl

theorem value_emptyArray {w : Text} (hw : AllSpace w) (fuel : Nat) (r : Text) :
    value (fuel + 1) ('[' :: (w ++ ']' :: r)) = .ok (.arr [], r) := by
  rw [value, if_neg (by decide), if_neg (by decide), if_pos rfl, skipSpace_append hw,
    skipSpace_cons rfl]
  rfl

theorem value_emptyObject {w : Text} (hw : AllSpace w) (fuel : Nat) (r : Text) :
    value (fuel + 1) ('\x7b' :: (w ++ '\x7d' :: r)) = .ok (.obj [], r) := by
  rw [value, if_neg (by decide), if_pos rfl, skipSpace_append hw, skipSpace_cons rfl]
  rfl

/-- An array that is not empty is read by its items. -/
theorem value_array {w t : Text} (hw : AllSpace w) (ht : Solid t) (fuel : Nat) :
    value (fuel + 1) ('[' :: (w ++ t)) = (items fuel t).onPart .arr := by
  rw [value, if_neg (by decide), if_neg (by decide), if_pos rfl, skipSpace_append hw,
    ht.skipSpace_eq]
  obtain ⟨c, t, rfl, -, hc, -⟩ := ht
  split
  · next heq => exact absurd (List.cons.inj heq).1 hc
  · rfl

/-- An object that is not empty is read by its members. -/
theorem value_object {w t : Text} (hw : AllSpace w) (ht : Solid t) (fuel : Nat) :
    value (fuel + 1) ('\x7b' :: (w ++ t)) =
      (members fuel t).onPart fun ms => .obj (Entries.ofList ms) := by
  rw [value, if_neg (by decide), if_pos rfl, skipSpace_append hw, ht.skipSpace_eq]
  obtain ⟨c, t, rfl, -, -, hc, -⟩ := ht
  split
  · next heq => exact absurd (List.cons.inj heq).1 hc
  · rfl

/-- **A member is read off**: its name, the colon and its value. -/
theorem reads_member {t k w w' u : Text} {v : Json} (ht : SpellsString t k) (hw : AllSpace w)
    (hw' : AllSpace w') (hsolid : Solid u) (hu : Reads u (.value v)) :
    Reads (t ++ (w ++ ':' :: (w' ++ u))) (.member k v) := by
  intro fuel hfuel r r' hr
  simp only [List.length_append, List.length_cons] at hfuel
  obtain ⟨t', htext, hstring⟩ := ht.exists_string (w ++ ':' :: (w' ++ (u ++ r)))
  have hcolon : skipSpace (w ++ ':' :: (w' ++ (u ++ r))) = ':' :: (w' ++ (u ++ r)) := by
    rw [skipSpace_append hw, skipSpace_cons rfl]
  have hvalue : value fuel (skipSpace (w' ++ (u ++ r))) = .ok (v, r) := by
    rw [skipSpace_append hw', (hsolid.append r).skipSpace_eq]
    exact hu fuel (by omega) r hr
  have hparts : t ++ (w ++ ':' :: (w' ++ u)) ++ r = t ++ (w ++ ':' :: (w' ++ (u ++ r))) := by
    simp only [List.append_assoc, List.cons_append]
  rw [hparts, htext, members]
  constructor
  · intro hskip
    simp only [hstring, hcolon, hvalue, hskip]
  · intro hskip
    simp only [hstring, hcolon, hvalue, hskip]

/-- **What spells a part is read.** -/
theorem Spells.reads {t : Text} {p : Part} (h : Spells (· ≤ Numeral.maxDigits) t p) :
    Reads t p := by
  -- on the spelling: each part is shorter than the text, so its fuel lasts
  induction h with
  | word h => exact reads_word h
  | number h => exact h.reads
  | string h => exact h.reads
  | emptyArray hw =>
    have hspells : Spells (· ≤ Numeral.maxDigits) _ _ := .emptyArray hw
    apply reads_of_value hspells.solid
    intro fuel r _
    rw [List.cons_append, List.append_assoc, List.singleton_append, value_emptyArray hw]
  | emptyObject hw =>
    have hspells : Spells (· ≤ Numeral.maxDigits) _ _ := .emptyObject hw
    apply reads_of_value hspells.solid
    intro fuel r _
    rw [List.cons_append, List.append_assoc, List.singleton_append, value_emptyObject hw]
  | @array w t xs hw ht ih =>
    intro fuel hfuel r _
    simp only [List.length_cons, List.length_append, List.length_nil] at hfuel
    obtain ⟨fuel, rfl⟩ : ∃ k, fuel = k + 1 := ⟨fuel - 1, by omega⟩
    rw [List.cons_append, List.append_assoc, List.append_assoc, List.singleton_append,
      value_array hw (ht.solid.append _), ih fuel (by omega)]
    rfl
  | @object w t ms hw ht ih =>
    intro fuel hfuel r _
    simp only [List.length_cons, List.length_append, List.length_nil] at hfuel
    obtain ⟨fuel, rfl⟩ : ∃ k, fuel = k + 1 := ⟨fuel - 1, by omega⟩
    rw [List.cons_append, List.append_assoc, List.append_assoc, List.singleton_append,
      value_object hw (ht.solid.append _), ih fuel (by omega)]
    rfl
  | member ht hw hw' hu ih => exact reads_member ht hw hw' hu.solid ih
  | @lastItem t w x ht hw ih =>
    intro fuel hfuel r
    rw [List.length_append] at hfuel
    obtain ⟨fuel, rfl⟩ : ∃ k, fuel = k + 1 := ⟨fuel - 1, by omega⟩
    -- a numeral ends at the bracket, whatever space is before it
    have hend := endsNumeral_append hw (endsNumeral_mark (c := ']') (by simp) r)
    rw [List.append_assoc, items, ih fuel (by omega) _ hend]
    dsimp only
    rw [skipSpace_append hw, skipSpace_cons rfl]
    rfl
  | @nextItem t w w' u x xs ht hw hw' hu ih ihu =>
    intro fuel hfuel r
    simp only [List.length_append, List.length_cons] at hfuel
    obtain ⟨fuel, rfl⟩ : ∃ k, fuel = k + 1 := ⟨fuel - 1, by omega⟩
    have hend := endsNumeral_append hw
      (endsNumeral_mark (c := ',') (by simp) (w' ++ (u ++ ']' :: r)))
    simp only [List.append_assoc, List.cons_append]
    rw [items, ih fuel (by omega) _ hend]
    dsimp only
    rw [skipSpace_append hw, skipSpace_cons rfl]
    show (items fuel (skipSpace (w' ++ (u ++ ']' :: r)))).onPart (x :: ·) = _
    rw [skipSpace_append hw', (hu.solid.append _).skipSpace_eq, ihu fuel (by omega)]
    rfl
  | @lastMember t k w v ht hw ih =>
    intro fuel hfuel r
    rw [List.length_append] at hfuel
    obtain ⟨fuel, rfl⟩ : ∃ k, fuel = k + 1 := ⟨fuel - 1, by omega⟩
    have hend := endsNumeral_append hw (endsNumeral_mark (c := '\x7d') (by simp) r)
    rw [List.append_assoc, (ih fuel (by omega) _ r hend).1]
    rw [skipSpace_append hw, skipSpace_cons rfl]
  | @nextMember t k w w' u v ms ht hw hw' hu ih ihu =>
    intro fuel hfuel r
    simp only [List.length_append, List.length_cons] at hfuel
    obtain ⟨fuel, rfl⟩ : ∃ k, fuel = k + 1 := ⟨fuel - 1, by omega⟩
    have hend := endsNumeral_append hw
      (endsNumeral_mark (c := ',') (by simp) (w' ++ (u ++ '\x7d' :: r)))
    simp only [List.append_assoc, List.cons_append]
    rw [(ih fuel (by omega) _ (w' ++ (u ++ '\x7d' :: r)) hend).2
        (by rw [skipSpace_append hw, skipSpace_cons rfl]),
      skipSpace_append hw', (hu.solid.append _).skipSpace_eq, ihu fuel (by omega)]
    rfl

/-! ## What is read is spelled -/

theorem exists_of_skipSpace {t r : Text} {c : Char} (h : skipSpace t = c :: r) :
    ∃ w, AllSpace w ∧ t = w ++ c :: r := by
  obtain ⟨w, hw, htext⟩ := exists_allSpace t
  rw [h] at htext
  exact ⟨w, hw, htext⟩

theorem exists_of_word? {t r : Text} {v : Json} (h : word? t = some (v, r)) :
    ∃ w, (w, v) ∈ words ∧ t = w ++ r := by
  obtain ⟨⟨w, v'⟩, hmem, hword⟩ := List.exists_of_findSome?_eq_some h
  obtain ⟨r', hdrop, heq⟩ := Option.map_eq_some_iff.mp hword
  cases heq
  exact ⟨w, hmem, Text.eq_of_dropPrefix?_eq_some hdrop⟩

/-- **What a fuel reads is spelled**: values, items and members. -/
structure SpelledAt (fuel : Nat) : Prop where
  value : ∀ {t r : Text} {v : Json}, value fuel t = .ok (v, r) →
    ∃ u, Spells (· ≤ Numeral.maxDigits) u (.value v) ∧ t = u ++ r
  items : ∀ {t r : Text} {xs : List Json}, items fuel t = .ok (xs, r) →
    ∃ u, Spells (· ≤ Numeral.maxDigits) u (.items xs) ∧ t = u ++ ']' :: r
  members : ∀ {t r : Text} {ms : List (Text × Json)}, members fuel t = .ok (ms, r) →
    ∃ u, Spells (· ≤ Numeral.maxDigits) u (.members ms) ∧ t = u ++ '\x7d' :: r

theorem spelledAt_zero : SpelledAt 0 := by
  constructor
  · intro t r v h
    rw [Json.value] at h
    cases h
  · intro t r xs h
    rw [Json.items] at h
    cases h
  · intro t r ms h
    rw [Json.members] at h
    cases h

variable {fuel : Nat}

theorem SpelledAt.value_succ (hfuel : SpelledAt fuel) {t r : Text} {v : Json}
    (h : Json.value (fuel + 1) t = .ok (v, r)) :
    ∃ u, Spells (· ≤ Numeral.maxDigits) u (.value v) ∧ t = u ++ r := by
  cases t with
  | nil =>
    rw [Json.value] at h
    cases h
  | cons c t =>
    rw [Json.value] at h
    split at h
    · -- a string
      next hc =>
      obtain ⟨s, hs, rfl⟩ := exists_of_onPart h
      obtain ⟨u, htext, hu⟩ := exists_of_string hs
      exact ⟨u, .string hu, by rw [hc, htext]⟩
    · split at h
      · -- an object
        next hc =>
        split at h
        · next hskip =>
          cases h
          obtain ⟨w, hw, rfl⟩ := exists_of_skipSpace hskip
          exact ⟨_, .emptyObject hw, by simp [hc]⟩
        · obtain ⟨ms, hms, rfl⟩ := exists_of_onPart h
          obtain ⟨u, hu, htext⟩ := hfuel.members hms
          obtain ⟨w, hw, hskip⟩ := exists_allSpace t
          rw [htext] at hskip
          exact ⟨_, .object hw hu, by simp [hc, hskip]⟩
      · split at h
        · -- an array
          next hc =>
          split at h
          · next hskip =>
            cases h
            obtain ⟨w, hw, rfl⟩ := exists_of_skipSpace hskip
            exact ⟨_, .emptyArray hw, by simp [hc]⟩
          · obtain ⟨xs, hxs, rfl⟩ := exists_of_onPart h
            obtain ⟨u, hu, htext⟩ := hfuel.items hxs
            obtain ⟨w, hw, hskip⟩ := exists_allSpace t
            rw [htext] at hskip
            exact ⟨_, .array hw hu, by simp [hc, hskip]⟩
        · -- a word, or a number
          split at h
          · next hword =>
            cases h
            obtain ⟨w, hw, htext⟩ := exists_of_word? hword
            exact ⟨w, .word hw, htext⟩
          · obtain ⟨u, htext, hu⟩ := exists_of_number h
            exact ⟨u, .number hu, htext⟩

theorem SpelledAt.items_succ (hfuel : SpelledAt fuel) {t r : Text} {xs : List Json}
    (h : Json.items (fuel + 1) t = .ok (xs, r)) :
    ∃ u, Spells (· ≤ Numeral.maxDigits) u (.items xs) ∧ t = u ++ ']' :: r := by
  rw [Json.items] at h
  split at h
  · cases h
  · next hv =>
    obtain ⟨u, hu, rfl⟩ := hfuel.value hv
    split at h
    · next hskip =>
      cases h
      obtain ⟨w, hw, rfl⟩ := exists_of_skipSpace hskip
      exact ⟨_, .lastItem hu hw, by simp⟩
    · next r' hskip =>
      obtain ⟨xs', hxs', rfl⟩ := exists_of_onPart h
      obtain ⟨u', hu', htext⟩ := hfuel.items hxs'
      obtain ⟨w, hw, rfl⟩ := exists_of_skipSpace hskip
      obtain ⟨w', hw', hskip'⟩ := exists_allSpace r'
      rw [htext] at hskip'
      exact ⟨_, .nextItem hu hw hw' hu', by simp [hskip']⟩
    · cases h

theorem SpelledAt.members_succ (hfuel : SpelledAt fuel) {t r : Text} {ms : List (Text × Json)}
    (h : Json.members (fuel + 1) t = .ok (ms, r)) :
    ∃ u, Spells (· ≤ Numeral.maxDigits) u (.members ms) ∧ t = u ++ '\x7d' :: r := by
  rw [members.eq_def] at h
  dsimp only at h
  -- a name, a colon and a value, or a fault
  split at h
  · split at h
    · cases h
    · next hstring =>
      split at h
      · next r' hcolon =>
        split at h
        · cases h
        · next hv =>
          obtain ⟨n, htext, hn⟩ := exists_of_string hstring
          obtain ⟨w, hw, rfl⟩ := exists_of_skipSpace hcolon
          obtain ⟨w', hw', hr'⟩ := exists_allSpace r'
          obtain ⟨u, hu, hvalue⟩ := hfuel.value hv
          rw [hvalue] at hr'
          have hmember := Spells.member hn hw hw' hu
          split at h
          · next hskip =>
            cases h
            obtain ⟨w₂, hw₂, rfl⟩ := exists_of_skipSpace hskip
            exact ⟨_, .lastMember hmember hw₂, by simp [htext, hr']⟩
          · next r₂ hskip =>
            obtain ⟨ms', hms', rfl⟩ := exists_of_onPart h
            obtain ⟨u', hu', hmembers⟩ := hfuel.members hms'
            obtain ⟨w₂, hw₂, rfl⟩ := exists_of_skipSpace hskip
            obtain ⟨w₃, hw₃, hr₂⟩ := exists_allSpace r₂
            rw [hmembers] at hr₂
            exact ⟨_, .nextMember hmember hw₂ hw₃ hu', by simp [htext, hr', hr₂]⟩
          · cases h
      · cases h
  · cases h

/-- Values, items and members that are read are spelled. -/
theorem spelledAt (fuel : Nat) : SpelledAt fuel := by
  -- for all three at once, since each reader calls the others with less fuel
  induction fuel with
  | zero => exact spelledAt_zero
  | succ fuel ih =>
    constructor
    · exact ih.value_succ
    · exact ih.items_succ
    · exact ih.members_succ

/-! ## Documents -/

/-- **The texts that are read are the documents.** -/
theorem readDocument_eq_ok_iff {t : Text} {v : Json} :
    readDocument t = .ok v ↔ IsDocument (· ≤ Numeral.maxDigits) t v := by
  constructor
  · intro h
    rw [readDocument, document] at h
    cases hv : value (2 * t.length + 2) (skipSpace t) with
    | error e =>
      rw [hv] at h
      cases h
    | ok p =>
      obtain ⟨v', r⟩ := p
      rw [hv] at h
      dsimp only at h
      split at h
      · next hempty =>
        cases h
        obtain ⟨w, hw, htext⟩ := exists_allSpace t
        obtain ⟨u, hu, hvalue⟩ := (spelledAt _).value hv
        obtain ⟨w', hw', hrest⟩ := exists_allSpace r
        rw [List.isEmpty_iff.mp hempty, List.append_nil] at hrest
        exact ⟨w, u, w', hw, hu, hw', by rw [htext, hvalue, hrest]⟩
      · cases h
  · rintro ⟨w, u, w', hw, hu, hw', rfl⟩
    -- a numeral at the end is followed by space only
    have hend : Text.EndsNumeral w' := by
      have happend := endsNumeral_append hw' Text.endsNumeral_nil
      rwa [List.append_nil] at happend
    have hvalue := hu.reads (2 * (w ++ (u ++ w')).length + 2)
      (by simp only [List.length_append]; omega) w' hend
    have hskip : skipSpace w' = [] := by
      have happend := skipSpace_append hw' []
      rwa [List.append_nil] at happend
    rw [readDocument, document, skipSpace_append hw, (hu.solid.append w').skipSpace_eq, hvalue]
    simp [hskip, Except.mapError]

/-- **Documents from text**: a document does not begin with a byte order mark. -/
theorem read_eq_ok_iff {t : Text} {v : Json} :
    read t = .ok v ↔ IsDocument (· ≤ Numeral.maxDigits) t v := by
  rw [← readDocument_eq_ok_iff, read.eq_def]
  split
  · next t' =>
    constructor
    · intro h
      cases h
    intro h
    obtain ⟨w, u, w', hw, hu, -, htext⟩ := readDocument_eq_ok_iff.mp h
    cases w with
    | nil =>
      obtain ⟨c, s, rfl, -, -, -, hmark⟩ := hu.solid
      exact absurd (List.cons.inj htext).1.symm hmark
    | cons c w =>
      have hc := hw c List.mem_cons_self
      rw [← (List.cons.inj htext).1] at hc
      cases hc
  · exact Iff.rfl

/-! ## Numerals that are too long -/

/-- **A numeral with too many digits** is refused, up to where it ends. -/
theorem value_of_tooManyDigits {c : Char} {t r : Text} (h : Text.AllDigits (c :: t)) (hc : c ≠ '0')
    (hlength : Numeral.maxDigits < (c :: t).length) (hr : r.EndsNumeral) (fuel : Nat) :
    value (fuel + 1) (c :: t ++ r) = .error (.tooManyDigits (c :: t).length, c :: t ++ r) := by
  have hwhole : Numeral.IsWhole (c :: t) := ⟨h, Or.inr ⟨c, t, rfl, hc⟩⟩
  have hnumber := number_eq hwhole .missing .missing false hr
  simp only [Bool.false_eq_true, if_false, List.nil_append, List.isEmpty_nil, Bool.and_self,
    if_true, if_pos hlength] at hnumber
  exact (value_of_digit (h c List.mem_cons_self) false fuel (t ++ r)).trans hnumber

/-- A document that is such a numeral is refused. -/
theorem read_of_tooManyDigits {c : Char} {t : Text} (h : Text.AllDigits (c :: t)) (hc : c ≠ '0')
    (hlength : Numeral.maxDigits < (c :: t).length) :
    read (c :: t) = .error ⟨.tooManyDigits (c :: t).length, []⟩ := by
  have hdigit : c.isDigit = true := h c List.mem_cons_self
  have hsolid : skipSpace (c :: t) = c :: t := by
    apply skipSpace_cons
    simp [isSpace, Text.ne_of_isDigit hdigit]
  have hvalue := value_of_tooManyDigits h hc hlength Text.endsNumeral_nil (2 * (c :: t).length + 1)
  rw [List.append_nil] at hvalue
  rw [read]
  · rw [readDocument, document, hsolid, hvalue]
    simp [Except.mapError]
  · rintro t' heq
    cases heq
    cases hdigit

/-- An object with such a numeral for its one member is none that is read. -/
theorem not_isDocument_of_tooManyDigits {n k : Text} {c : Char} {t : Text} (hn : SpellsString n k)
    (h : Text.AllDigits (c :: t)) (hc : c ≠ '0') (hlength : Numeral.maxDigits < (c :: t).length)
    (v : Json) :
    ¬ IsDocument (· ≤ Numeral.maxDigits) ('\x7b' :: (n ++ ':' :: (c :: t ++ ['\x7d']))) v := by
  rw [← readDocument_eq_ok_iff, readDocument, document, skipSpace_cons rfl]
  obtain ⟨n', htext, hstring⟩ := hn.exists_string (':' :: (c :: t ++ ['\x7d']))
  -- the object, its members and the value take one unit of fuel each
  obtain ⟨fuel, hfuel⟩ : ∃ fuel, 2 * ('\x7b' :: (n ++ ':' :: (c :: t ++ ['\x7d']))).length + 2 =
      fuel + 1 + 1 + 1 := ⟨_, rfl⟩
  have hend : Text.EndsNumeral ['\x7d'] := endsNumeral_mark (Or.inr (Or.inr rfl)) []
  have hvalue := value_of_tooManyDigits h hc hlength hend fuel
  have hobject := value_object allSpace_nil (hn.solid.append (':' :: (c :: t ++ ['\x7d'])))
    (fuel + 1 + 1)
  have hdigit : skipSpace (c :: t ++ ['\x7d']) = c :: t ++ ['\x7d'] := by
    apply skipSpace_cons
    simp [isSpace, Text.ne_of_isDigit (h c List.mem_cons_self)]
  have hcolon : skipSpace (':' :: (c :: t ++ ['\x7d'])) = _ := skipSpace_cons rfl _
  rw [List.nil_append] at hobject
  rw [hfuel, hobject, htext, members]
  simp only [hstring, hcolon, hdigit, hvalue]
  intro heq
  cases heq

end Json

/-- **A numeral in a text is too long**: the text ends with `s`, and that begins with a sign or none
and with more digits than a numeral may have. -/
def Numeral.Overlong (n : Nat) (s t : Text) : Prop :=
  s <:+ t ∧ ∃ (negative : Bool) (ds r : Text),
    s = (if negative then ['-'] else []) ++ (ds ++ r) ∧ ds.AllDigits ∧ ds.length = n ∧ maxDigits < n

theorem Numeral.Overlong.of_append {n : Nat} {s u t : Text} (h : Overlong n s t) :
    Overlong n s (u ++ t) :=
  ⟨h.1.trans (List.suffix_append u t), h.2⟩

namespace Json

open Numeral (Overlong)

variable {n : Nat} {s t before : Text}

theorem overlong_of_skipSpace (h : Overlong n s (skipSpace t)) : Overlong n s t := by
  obtain ⟨w, -, htext⟩ := exists_allSpace t
  rw [htext]
  exact h.of_append

theorem overlong_of_number (h : number t = .error (.tooManyDigits n, s)) : Overlong n s t := by
  obtain ⟨rfl, hdigits⟩ := exists_digits_of_number h
  exact ⟨List.suffix_rfl, hdigits⟩

theorem error_of_onPart {α β : Type} {s : Step α} {f : α → β} {e : ReadReason × Text}
    (h : s.onPart f = .error e) : s = .error e := by
  cases s with
  | error e' =>
    cases h
    rfl
  | ok p => cases h

/-- In a string no numeral is too long. -/
theorem string_ne_tooManyDigits (t s : Text) (n : Nat) :
    string t ≠ .error (.tooManyDigits n, s) := by
  have hpoints : ∀ start t, stringPoints start t ≠ .error (.tooManyDigits n, s) := by
    intro start t h
    fun_induction stringPoints start t with
    | case2 => cases h
    | case3 _ _ _ _ _ _ _ _ ih => exact ih (error_of_onPart h)
    | case7 _ _ _ _ _ _ ih => exact ih (error_of_onPart h)
    | case10 _ _ _ _ _ _ _ _ ih => exact ih (error_of_onPart h)
    | _ => cases h
  intro h
  exact hpoints _ _ (error_of_onPart h)

/-- **Texts that a fuel refuses for a numeral** have too many digits: values, items and members. -/
structure OverlongAt (fuel : Nat) : Prop where
  value : ∀ {t s : Text} {n : Nat}, value fuel t = .error (.tooManyDigits n, s) → Overlong n s t
  items : ∀ {t s : Text} {n : Nat}, items fuel t = .error (.tooManyDigits n, s) → Overlong n s t
  members : ∀ {t s : Text} {n : Nat}, members fuel t = .error (.tooManyDigits n, s) → Overlong n s t

theorem overlongAt_zero : OverlongAt 0 := by
  constructor
  · intro t s n h
    rw [Json.value] at h
    cases h
  · intro t s n h
    rw [Json.items] at h
    cases h
  · intro t s n h
    rw [Json.members] at h
    cases h

theorem OverlongAt.value_succ (hfuel : OverlongAt fuel)
    (h : Json.value (fuel + 1) t = .error (.tooManyDigits n, s)) : Overlong n s t := by
  cases t with
  | nil =>
    rw [Json.value] at h
    cases h
  | cons c t =>
    -- what follows an opening bracket
    have htail : Overlong n s (skipSpace t) → Overlong n s (c :: t) :=
      fun ht => (overlong_of_skipSpace ht).of_append (u := [c])
    rw [Json.value] at h
    split at h
    · exact absurd (error_of_onPart h) (string_ne_tooManyDigits t s n)
    · split at h
      · split at h
        · cases h
        · exact htail (hfuel.members (error_of_onPart h))
      · split at h
        · split at h
          · cases h
          · exact htail (hfuel.items (error_of_onPart h))
        · split at h
          · cases h
          · exact overlong_of_number h

theorem OverlongAt.items_succ (hfuel : OverlongAt fuel)
    (h : Json.items (fuel + 1) t = .error (.tooManyDigits n, s)) : Overlong n s t := by
  rw [Json.items] at h
  split at h
  · next hv =>
    cases h
    exact hfuel.value hv
  · next hv =>
    obtain ⟨u, -, rfl⟩ := (spelledAt fuel).value hv
    split at h
    · cases h
    · next hskip =>
      obtain ⟨w, -, rfl⟩ := exists_of_skipSpace hskip
      have htail := overlong_of_skipSpace (hfuel.items (error_of_onPart h))
      exact (htail.of_append (u := [','])).of_append.of_append
    · cases h

theorem OverlongAt.members_succ (hfuel : OverlongAt fuel)
    (h : Json.members (fuel + 1) t = .error (.tooManyDigits n, s)) : Overlong n s t := by
  rw [members.eq_def] at h
  dsimp only at h
  split at h
  · split at h
    · next hstring =>
      cases h
      exact absurd hstring (string_ne_tooManyDigits _ s n)
    · next hstring =>
      obtain ⟨k, htext, -⟩ := exists_of_string hstring
      split at h
      · next hcolon =>
        obtain ⟨w, -, rfl⟩ := exists_of_skipSpace hcolon
        rw [htext]
        -- behind the name and the colon
        apply Overlong.of_append
        apply Overlong.of_append
        apply Overlong.of_append (u := [':'])
        apply overlong_of_skipSpace
        split at h
        · next hv =>
          cases h
          exact hfuel.value hv
        · next hv =>
          obtain ⟨u, -, hvalue⟩ := (spelledAt fuel).value hv
          rw [hvalue]
          split at h
          · cases h
          · next hskip =>
            obtain ⟨w', -, rfl⟩ := exists_of_skipSpace hskip
            have htail := overlong_of_skipSpace (hfuel.members (error_of_onPart h))
            exact (htail.of_append (u := [','])).of_append.of_append
          · cases h
      · cases h
  · cases h

theorem overlongAt (fuel : Nat) : OverlongAt fuel := by
  induction fuel with
  | zero => exact overlongAt_zero
  | succ fuel ih =>
    constructor
    · exact ih.value_succ
    · exact ih.items_succ
    · exact ih.members_succ

/-- **A text that is refused for a numeral** has that numeral where the fault is. -/
theorem overlong_of_readDocument (h : readDocument t = .error ⟨.tooManyDigits n, before⟩) :
    ∃ s, t = before ++ s ∧ Overlong n s t := by
  rw [readDocument, document] at h
  cases hv : value (2 * t.length + 2) (skipSpace t) with
  | error e =>
    obtain ⟨reason, s⟩ := e
    rw [hv] at h
    cases h
    have hlong := overlong_of_skipSpace ((overlongAt _).value hv)
    obtain ⟨u, hu⟩ := hlong.1
    refine ⟨s, ?_, hlong⟩
    rw [← hu, List.length_append, Nat.add_sub_cancel, List.take_left]
  | ok p =>
    rw [hv] at h
    dsimp only at h
    split at h
    · cases h
    · cases h

theorem overlong_of_read (h : read t = .error ⟨.tooManyDigits n, before⟩) :
    ∃ s, t = before ++ s ∧ Overlong n s t := by
  rw [read.eq_def] at h
  split at h
  · cases h
  · exact overlong_of_readDocument h

end Json

end Roleplay
