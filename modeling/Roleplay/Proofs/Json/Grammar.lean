import Roleplay.Json.Reader
import Roleplay.Proofs.Number.Notation

/-!
# The grammar of documents

A document is a value with space around it. A value is a word, a number, a string, an array or an
object; the items of an array and the members of an object stand between commas, and space may stand
between all parts. Beyond the standard three words stand for numbers that are not finite. The length
of a whole number is left open here, for the grammar has no limit of it and the reader has one.

The grammar says which texts spell a value and nothing of how they are read. A value has many
spellings: the space, the escapes in a string, the names that an object repeats.

## Main definitions

* `Json.SpellsPoints`, `Json.SpellsString`: the texts of strings
* `Json.Spells`: the texts of values, of members, and of what stands in arrays and objects
* `Json.IsDocument`: the texts of documents
* `Json.Solid`: texts that begin with a part of a document

## Main results

* `Json.SpellsPoints.stringPoints_append`, `Json.exists_of_stringPoints`: the reader takes from a
  text the strings of the grammar
* `Json.Spells.solid`: what spells a part begins with it
-/

namespace Roleplay.Json

/-! ## Space -/

/-- Texts of space only. -/
def AllSpace (w : Text) : Prop :=
  ∀ c ∈ w, isSpace c = true

theorem allSpace_nil : AllSpace [] := by
  intro c hc
  cases hc

theorem allSpace_replicate (n : Nat) : AllSpace (List.replicate n ' ') := by
  intro c hc
  rw [List.eq_of_mem_replicate hc]
  rfl

theorem allSpace_append {w w' : Text} (h : AllSpace w) (h' : AllSpace w') : AllSpace (w ++ w') :=
  List.forall_mem_append.mpr ⟨h, h'⟩

theorem skipSpace_append {w : Text} (hw : AllSpace w) (t : Text) :
    skipSpace (w ++ t) = skipSpace t := by
  rw [skipSpace, List.dropWhile_append_of_pos hw]
  rfl

theorem skipSpace_cons {c : Char} (hc : isSpace c = false) (t : Text) :
    skipSpace (c :: t) = c :: t :=
  List.dropWhile_cons_of_neg (by simp [hc])

/-- **A text is space and what follows it.** -/
theorem exists_allSpace (t : Text) : ∃ w, AllSpace w ∧ t = w ++ skipSpace t :=
  ⟨t.takeWhile isSpace, fun _ hc => List.all_eq_true.mp List.all_takeWhile _ hc,
    List.takeWhile_append_dropWhile.symm⟩

/-- What ends a numeral ends it behind space. -/
theorem endsNumeral_append {w t : Text} (hw : AllSpace w) (ht : t.EndsNumeral) :
    Text.EndsNumeral (w ++ t) := by
  cases w with
  | nil => exact ht
  | cons c w =>
    intro d hd
    cases hd
    have hc := hw c List.mem_cons_self
    simp only [isSpace, Bool.or_eq_true, beq_iff_eq] at hc
    rcases hc with ((rfl | rfl) | rfl) | rfl <;> decide

/-- A mark between the parts of a document ends a numeral. -/
theorem endsNumeral_mark {c : Char} (hc : c = ',' ∨ c = ']' ∨ c = '\x7d') (t : Text) :
    Text.EndsNumeral (c :: t) := by
  intro d hd
  cases hd
  rcases hc with rfl | rfl | rfl <;> decide

/-! ## Strings -/

/-- **The texts of code points in a string**: a character as itself, an escape of one letter, and
one of four hexadecimal digits. -/
inductive SpellsPoints : Text → List Nat → Prop
  | nil : SpellsPoints [] []
  | itself {c : Char} {t : Text} {ns : List Nat} (hquote : c ≠ '"') (hslash : c ≠ '\\')
    (hcontrol : ¬ c.toNat < 0x20) (ht : SpellsPoints t ns) : SpellsPoints (c :: t) (c.toNat :: ns)
  | letter {k c : Char} {t : Text} {ns : List Nat} (hk : simpleEscape? k = some c)
    (ht : SpellsPoints t ns) : SpellsPoints ('\\' :: k :: t) (c.toNat :: ns)
  | unit {a b c d : Char} {n : Nat} {t : Text} {ns : List Nat} (hn : hexQuad? a b c d = some n)
    (ht : SpellsPoints t ns) : SpellsPoints ('\\' :: 'u' :: a :: b :: c :: d :: t) (n :: ns)

/-- **The texts of strings**: code points between quotes, and the halves of a pair are one
character. -/
def SpellsString (t s : Text) : Prop :=
  ∃ u ns, SpellsPoints u ns ∧ t = '"' :: (u ++ ['"']) ∧ s = joinSurrogates ns

/-- **Code points are read** up to the closing quote. -/
theorem SpellsPoints.stringPoints_append {t : Text} {ns : List Nat} (h : SpellsPoints t ns)
    (start r : Text) : stringPoints start (t ++ '"' :: r) = .ok (ns, r) := by
  induction h with
  | nil => exact stringPoints.eq_2 start r
  | @itself c t ns hquote hslash hcontrol _ ih =>
    rw [List.cons_append, stringPoints.eq_8 start c _ hquote (fun _ _ _ _ _ h _ => hslash h)
      (fun _ h _ => hslash h) (fun h _ => hslash h) (fun _ _ h _ => hslash h), if_neg hcontrol, ih]
    rfl
  | @letter k c t ns hk _ ih =>
    have hu : k ≠ 'u' := by
      rintro rfl
      cases hk
    rw [List.cons_append, List.cons_append,
      stringPoints.eq_7 start k _ (fun _ _ _ _ _ h _ => hu h) hu, hk]
    dsimp only
    rw [ih]
    rfl
  | @unit a b c d n t ns hn _ ih =>
    -- at least the closing quote follows
    obtain ⟨e, t', het⟩ : ∃ e t', t ++ '"' :: r = e :: t' :=
      List.exists_cons_of_ne_nil (List.append_ne_nil_of_right_ne_nil _ (List.cons_ne_nil _ _))
    rw [het] at ih
    show stringPoints start ('\\' :: 'u' :: a :: b :: c :: d :: (t ++ '"' :: r)) = _
    rw [het, stringPoints.eq_3 start a b c d n e t' hn, ih]
    rfl

theorem exists_of_onPart {α β : Type} {s : Step α} {f : α → β} {b : β} {r : Text}
    (h : s.onPart f = .ok (b, r)) : ∃ a, s = .ok (a, r) ∧ f a = b := by
  cases s with
  | error e => cases h
  | ok p =>
    cases h
    exact ⟨_, rfl, rfl⟩

/-- **What is read as code points** spells them, before a closing quote. -/
theorem exists_of_stringPoints {start t r : Text} {ns : List Nat}
    (h : stringPoints start t = .ok (ns, r)) : ∃ u, t = u ++ '"' :: r ∧ SpellsPoints u ns := by
  fun_induction stringPoints start t generalizing ns with
  | case1 => cases h
  | case2 t =>
    cases h
    exact ⟨[], rfl, .nil⟩
  | case3 a b c d n e t hn ih =>
    obtain ⟨ns, hns, rfl⟩ := exists_of_onPart h
    obtain ⟨u, htext, hu⟩ := ih hns
    exact ⟨'\\' :: 'u' :: a :: b :: c :: d :: u, by rw [htext]; rfl, .unit hn hu⟩
  | case4 => cases h
  | case5 => cases h
  | case6 => cases h
  | case7 c t _ _ e he ih =>
    obtain ⟨ns, hns, rfl⟩ := exists_of_onPart h
    obtain ⟨u, htext, hu⟩ := ih hns
    exact ⟨'\\' :: c :: u, by rw [htext]; rfl, .letter he hu⟩
  | case8 => cases h
  | case9 => cases h
  | case10 c t hquote _ _ hnil hcons hcontrol ih =>
    have hslash : c ≠ '\\' := by
      rintro rfl
      cases t with
      | nil => exact hnil rfl rfl
      | cons d t => exact hcons d t rfl rfl
    obtain ⟨ns, hns, rfl⟩ := exists_of_onPart h
    obtain ⟨u, htext, hu⟩ := ih hns
    exact ⟨c :: u, by rw [htext]; rfl, .itself hquote hslash hcontrol hu⟩

/-- **A string is read** up to its closing quote. -/
theorem SpellsString.exists_string {t s : Text} (h : SpellsString t s) (r : Text) :
    ∃ u, t ++ r = '"' :: u ∧ string u = .ok (s, r) := by
  obtain ⟨u, ns, hu, rfl, rfl⟩ := h
  refine ⟨u ++ '"' :: r, ?_, ?_⟩
  · rw [List.cons_append, List.append_assoc, List.singleton_append]
  · rw [string, hu.stringPoints_append]
    rfl

/-- **What is read as a string** spells it. -/
theorem exists_of_string {t r s : Text} (h : string t = .ok (s, r)) :
    ∃ u, '"' :: t = u ++ r ∧ SpellsString u s := by
  obtain ⟨ns, hns, rfl⟩ := exists_of_onPart h
  obtain ⟨u, rfl, hu⟩ := exists_of_stringPoints hns
  refine ⟨'"' :: (u ++ ['"']), ?_, u, ns, hu, rfl, rfl⟩
  rw [List.cons_append, List.append_assoc, List.singleton_append]

/-! ## Values -/

/-- **What a text may spell**: a value, a member of an object, or what stands between the brackets
of an array or of an object, which is not empty. -/
inductive Part
  | value (v : Json)
  | member (k : Text) (v : Json)
  | items (xs : List Json)
  | members (ms : List (Text × Json))

/-- **The texts of the parts of documents**, in which a whole number has a length that fits. -/
inductive Spells (fits : Nat → Prop) : Text → Part → Prop
  | word {w : Text} {v : Json} (h : (w, v) ∈ words) : Spells fits w (.value v)
  | number {t : Text} {v : Json} (h : SpellsNumber fits t v) : Spells fits t (.value v)
  | string {t s : Text} (h : SpellsString t s) : Spells fits t (.value (.str s))
  | emptyArray {w : Text} (hw : AllSpace w) : Spells fits ('[' :: (w ++ [']'])) (.value (.arr []))
  | array {w t : Text} {xs : List Json} (hw : AllSpace w) (ht : Spells fits t (.items xs)) :
    Spells fits ('[' :: (w ++ (t ++ [']']))) (.value (.arr xs))
  | emptyObject {w : Text} (hw : AllSpace w) :
    Spells fits ('\x7b' :: (w ++ ['\x7d'])) (.value (.obj []))
  | object {w t : Text} {ms : List (Text × Json)} (hw : AllSpace w)
    (ht : Spells fits t (.members ms)) :
    Spells fits ('\x7b' :: (w ++ (t ++ ['\x7d']))) (.value (.obj (Entries.ofList ms)))
  | member {t k w w' u : Text} {v : Json} (ht : SpellsString t k) (hw : AllSpace w)
    (hw' : AllSpace w') (hu : Spells fits u (.value v)) :
    Spells fits (t ++ (w ++ ':' :: (w' ++ u))) (.member k v)
  | lastItem {t w : Text} {x : Json} (ht : Spells fits t (.value x)) (hw : AllSpace w) :
    Spells fits (t ++ w) (.items [x])
  | nextItem {t w w' u : Text} {x : Json} {xs : List Json} (ht : Spells fits t (.value x))
    (hw : AllSpace w) (hw' : AllSpace w') (hu : Spells fits u (.items xs)) :
    Spells fits (t ++ (w ++ ',' :: (w' ++ u))) (.items (x :: xs))
  | lastMember {t k w : Text} {v : Json} (ht : Spells fits t (.member k v)) (hw : AllSpace w) :
    Spells fits (t ++ w) (.members [(k, v)])
  | nextMember {t k w w' u : Text} {v : Json} {ms : List (Text × Json)}
    (ht : Spells fits t (.member k v)) (hw : AllSpace w) (hw' : AllSpace w')
    (hu : Spells fits u (.members ms)) :
    Spells fits (t ++ (w ++ ',' :: (w' ++ u))) (.members ((k, v) :: ms))

/-- **The texts of documents**: a value with space around it. -/
def IsDocument (fits : Nat → Prop) (t : Text) (v : Json) : Prop :=
  ∃ w u w', AllSpace w ∧ Spells fits u (.value v) ∧ AllSpace w' ∧ t = w ++ (u ++ w')

variable {fits : Nat → Prop}

theorem Spells.isDocument {t : Text} {v : Json} (h : Spells fits t (.value v)) :
    IsDocument fits t v :=
  ⟨[], t, [], allSpace_nil, h, allSpace_nil, (List.append_nil t).symm⟩

/-- **An object with one member**, without space. -/
theorem Spells.single {n k t : Text} {v : Json} (hn : SpellsString n k)
    (ht : Spells fits t (.value v)) :
    Spells fits ('\x7b' :: (n ++ ':' :: (t ++ ['\x7d']))) (.value (.obj [(k, v)])) := by
  have hmember : Spells fits (n ++ ':' :: t) (.member k v) :=
    .member (w := []) hn allSpace_nil allSpace_nil ht
  have hmembers := hmember.lastMember allSpace_nil
  rw [List.append_nil] at hmembers
  have hobject := Spells.object allSpace_nil hmembers
  rw [List.nil_append, List.append_assoc, List.cons_append] at hobject
  exact hobject

/-! ## How a part begins -/

/-- **Texts that begin with a part of a document**: not with space, nor with the end of an array or
of an object, nor with a byte order mark. -/
def Solid (t : Text) : Prop :=
  ∃ c t', t = c :: t' ∧ isSpace c = false ∧ c ≠ ']' ∧ c ≠ '\x7d' ∧ c ≠ '\uFEFF'

theorem Solid.append {t : Text} (h : Solid t) (r : Text) : Solid (t ++ r) := by
  obtain ⟨c, t', rfl, hc⟩ := h
  exact ⟨c, t' ++ r, rfl, hc⟩

theorem Solid.skipSpace_eq {t : Text} (h : Solid t) : skipSpace t = t := by
  obtain ⟨c, t', rfl, hc, -⟩ := h
  exact skipSpace_cons hc t'

theorem solid_word {w : Text} {v : Json} (h : (w, v) ∈ words) : Solid w := by
  simp only [words, List.mem_cons, Prod.mk.injEq, List.not_mem_nil, or_false] at h
  rcases h with ⟨rfl, -⟩ | ⟨rfl, -⟩ | ⟨rfl, -⟩ | ⟨rfl, -⟩ | ⟨rfl, -⟩ | ⟨rfl, -⟩
  all_goals exact ⟨_, _, rfl, rfl, by decide, by decide, by decide⟩

theorem SpellsNumber.solid {t : Text} {v : Json} (h : SpellsNumber fits t v) : Solid t := by
  obtain ⟨negative, c, s, rfl, hc⟩ := h.exists_cons
  cases negative with
  | true => exact ⟨'-', c :: s, rfl, rfl, by decide, by decide, by decide⟩
  | false =>
    refine ⟨c, s, rfl, ?_, Text.ne_of_isDigit hc rfl, Text.ne_of_isDigit hc rfl,
      Text.ne_of_isDigit hc rfl⟩
    simp [isSpace, Text.ne_of_isDigit hc]

theorem SpellsString.solid {t s : Text} (h : SpellsString t s) : Solid t := by
  obtain ⟨u, ns, -, rfl, -⟩ := h
  exact ⟨'"', _, rfl, rfl, by decide, by decide, by decide⟩

/-- **What spells a part begins with it.** -/
theorem Spells.solid {t : Text} {p : Part} (h : Spells fits t p) : Solid t := by
  induction h with
  | word h => exact solid_word h
  | number h => exact h.solid
  | string h => exact h.solid
  | emptyArray => exact ⟨'[', _, rfl, rfl, by decide, by decide, by decide⟩
  | array => exact ⟨'[', _, rfl, rfl, by decide, by decide, by decide⟩
  | emptyObject => exact ⟨'\x7b', _, rfl, rfl, by decide, by decide, by decide⟩
  | object => exact ⟨'\x7b', _, rfl, rfl, by decide, by decide, by decide⟩
  | member ht => exact ht.solid.append _
  | lastItem _ _ ih => exact ih.append _
  | nextItem _ _ _ _ ih => exact ih.append _
  | lastMember _ _ ih => exact ih.append _
  | nextMember _ _ _ _ ih => exact ih.append _

end Roleplay.Json
