import Mathlib.Data.List.DropRight
import Roleplay.Lore
import Roleplay.Proofs.Text.Fold
import Roleplay.Proofs.Text.Lines
import Roleplay.Proofs.Text.Strip

/-!
# Lore and what was said

The newest turns are searched as one text, with a line feed between each two. No keyword has a line
feed in it, not even up to case, so a piece of the whole text that is a keyword lies within one
turn; and a line feed is no word character, so the piece is a whole word of the text exactly if it
is one of its turn. The search of the whole is therefore a search turn by turn, and turns that are
older than the newest have no part in it.

## Main definitions

* `StandsIn keyword t`: `keyword` stands in `t` as a whole word

## Main results

* `saysWord_iff`: what the search finds
* `standsIn_join`: a keyword of joined turns stands in one of them
* `Lore.matching_by_turn`: the entries that turns call up
-/

namespace Roleplay

open Text

variable {keyword t u : Text} {before : Option Char}

/-- **A keyword stands in a text as a whole word**: a piece of the text is the keyword in any case
of letters, and has no word character beside it. -/
def StandsIn (keyword t : Text) : Prop :=
  ∃ front word back : Text, t = front ++ (word ++ back) ∧ word.SameFolded keyword ∧
    (∀ c ∈ front.getLast?, isWord c = false) ∧ ∀ c ∈ back.head?, isWord c = false

/-! ## What the search finds -/

theorem startsWithWord_iff :
    startsWithWord keyword before t = true ↔ ∃ word back : Text, t = word ++ back ∧
      word.SameFolded keyword ∧ (∀ c ∈ before, isWord c = false) ∧
        ∀ c ∈ back.head?, isWord c = false := by
  have hany : ∀ o : Option Char, (!o.any isWord) = true ↔ ∀ c ∈ o, isWord c = false := by
    intro o
    cases o <;> simp
  rw [startsWithWord]
  cases hdrop : t.dropFolded? keyword with
  | none =>
    constructor
    · intro h
      cases h
    · rintro ⟨word, back, ht, hword, -⟩
      have hsome := dropFolded?_eq_some_iff.mpr ⟨word, ht, hword⟩
      cases hdrop.symm.trans hsome
  | some rest =>
    rw [Bool.and_eq_true, hany, hany]
    constructor
    · rintro ⟨hbefore, hrest⟩
      obtain ⟨word, ht, hword⟩ := dropFolded?_eq_some_iff.mp hdrop
      exact ⟨word, rest, ht, hword, hbefore, hrest⟩
    · rintro ⟨word, back, ht, hword, hbefore, hback⟩
      have hsome := dropFolded?_eq_some_iff.mpr ⟨word, ht, hword⟩
      obtain rfl := Option.some.inj (hdrop.symm.trans hsome)
      exact ⟨hbefore, hback⟩

/-- A search that has come some way: the character before the rest counts for what stands at its
beginning. -/
theorem saysWordAfter_iff :
    saysWordAfter keyword before t = true ↔ ∃ front word back : Text,
      t = front ++ (word ++ back) ∧ word.SameFolded keyword ∧
        (∀ c ∈ (before.toList ++ front).getLast?, isWord c = false) ∧
          ∀ c ∈ back.head?, isWord c = false := by
  have hstart : ∀ {t : Text} {before : Option Char},
      startsWithWord keyword before t = true ↔ ∃ word back : Text, t = [] ++ (word ++ back) ∧
        word.SameFolded keyword ∧ (∀ c ∈ (before.toList ++ []).getLast?, isWord c = false) ∧
          ∀ c ∈ back.head?, isWord c = false := by
    intro t before
    rw [startsWithWord_iff]
    cases before <;> rfl
  induction t generalizing before with
  | nil =>
    rw [saysWordAfter, hstart]
    constructor
    · exact fun h => ⟨[], h⟩
    · rintro ⟨front, word, back, ht, hword⟩
      obtain ⟨rfl, -⟩ := List.append_eq_nil_iff.mp ht.symm
      exact ⟨word, back, ht, hword⟩
  | cons c t ih =>
    have hlast : ∀ front : Text,
        (before.toList ++ c :: front).getLast? = ((some c).toList ++ front).getLast? := by
      intro front
      rw [List.getLast?_append_of_ne_nil _ (List.cons_ne_nil c front)]
      rfl
    rw [saysWordAfter, Bool.or_eq_true]
    refine (or_congr hstart ih).trans ?_
    constructor
    · rintro (h | ⟨front, word, back, rfl, hword, hfront, hback⟩)
      · exact ⟨[], h⟩
      · exact ⟨c :: front, word, back, rfl, hword, hlast front ▸ hfront, hback⟩
    · rintro ⟨_ | ⟨d, front⟩, word, back, ht, hword, hfront, hback⟩
      · exact .inl ⟨word, back, ht, hword, hfront, hback⟩
      · obtain ⟨rfl, hrest⟩ := List.cons.inj ht
        exact .inr ⟨front, word, back, hrest, hword, hlast front ▸ hfront, hback⟩

/-- **What the search finds** are the keywords that stand in the text as whole words. -/
theorem saysWord_iff : saysWord t keyword = true ↔ StandsIn keyword t :=
  saysWordAfter_iff

instance (keyword t : Text) : Decidable (StandsIn keyword t) :=
  decidable_of_iff _ saysWord_iff

/-! ## Turn by turn -/

theorem not_standsIn_nil (h : keyword ≠ []) : ¬ StandsIn keyword [] := by
  rintro ⟨front, word, back, ht, hword, -, -⟩
  obtain ⟨-, hrest⟩ := List.append_eq_nil_iff.mp ht.symm
  obtain ⟨rfl, -⟩ := List.append_eq_nil_iff.mp hrest
  exact h (List.map_eq_nil_iff.mp hword.symm)

theorem newline_notMem (h : '\n' ∉ keyword) {word : Text} (hword : word.SameFolded keyword) :
    '\n' ∉ word :=
  fun hmem => h ((hword.mem_iff (by decide) (by decide)).mp hmem)

/-- A piece without a character stands before it or behind it. -/
theorem exists_of_append_cons_eq {c : Char} {front word back : Text} (hc : c ∉ word)
    (h : t ++ c :: u = front ++ (word ++ back)) :
    (∃ rest, t = front ++ (word ++ rest) ∧ back = rest ++ c :: u) ∨
      ∃ rest, front = t ++ c :: rest ∧ u = rest ++ (word ++ back) := by
  rcases List.append_eq_append_iff.mp h with ⟨rest, rfl, hrest⟩ | ⟨rest, rfl, hrest⟩
  · rcases rest with _ | ⟨d, rest⟩
    · rcases word with _ | ⟨d, word⟩
      · exact .inl ⟨[], by simp, hrest.symm⟩
      · obtain ⟨rfl, -⟩ := List.cons.inj hrest
        exact absurd List.mem_cons_self hc
    · obtain ⟨rfl, hu⟩ := List.cons.inj hrest
      exact .inr ⟨rest, rfl, hu⟩
  · rcases List.append_eq_append_iff.mp hrest with ⟨more, rfl, hback⟩ | ⟨more, rfl, hback⟩
    · exact .inl ⟨more, rfl, hback⟩
    · rcases more with _ | ⟨d, more⟩
      · exact .inl ⟨[], by simp, hback.symm⟩
      · obtain ⟨rfl, -⟩ := List.cons.inj hback
        exact absurd (List.mem_append_right _ List.mem_cons_self) hc

/-- **A keyword without line feeds** stands before a line feed or behind it. -/
theorem standsIn_append_newline (h : '\n' ∉ keyword) :
    StandsIn keyword (t ++ '\n' :: u) ↔ StandsIn keyword t ∨ StandsIn keyword u := by
  constructor
  · rintro ⟨front, word, back, ht, hword, hfront, hback⟩
    rcases exists_of_append_cons_eq (newline_notMem h hword) ht with
      ⟨rest, rfl, rfl⟩ | ⟨rest, rfl, rfl⟩
    · refine .inl ⟨front, word, rest, rfl, hword, hfront, fun c hc => hback c ?_⟩
      rw [List.head?_append, Option.mem_def.mp hc]
      rfl
    · refine .inr ⟨rest, word, back, rfl, hword, fun c hc => hfront c ?_, hback⟩
      rw [List.getLast?_append, List.getLast?_cons, Option.mem_def.mp hc]
      rfl
  · -- a line feed beside the word is no word character
    have hnl : isWord '\n' = false := by decide
    rintro (⟨front, word, back, rfl, hword, hfront, hback⟩ |
      ⟨front, word, back, rfl, hword, hfront, hback⟩)
    · refine ⟨front, word, back ++ '\n' :: u, by simp, hword, hfront, ?_⟩
      rcases back with _ | ⟨c, back⟩
      · simpa using hnl
      · simpa using hback
    · refine ⟨t ++ '\n' :: front, word, back, by simp, hword, ?_, hback⟩
      rw [List.getLast?_append_of_ne_nil _ (List.cons_ne_nil _ _)]
      rcases front with _ | ⟨c, front⟩
      · simpa using hnl
      · rwa [List.getLast?_cons_cons]

/-- **A keyword of joined turns** stands in one of them. -/
theorem standsIn_join {turns : List Text} (hne : keyword ≠ []) (h : '\n' ∉ keyword) :
    StandsIn keyword (Text.join ['\n'] turns) ↔ ∃ t ∈ turns, StandsIn keyword t := by
  induction turns with
  | nil =>
    constructor
    · exact fun hstands => absurd hstands (not_standsIn_nil hne)
    · rintro ⟨t, ht, -⟩
      cases ht
  | cons t turns ih =>
    cases turns with
    | nil => simp
    | cons u turns =>
      rw [join_cons_cons, List.singleton_append, standsIn_append_newline h, ih]
      exact (List.exists_mem_cons_iff _ t (u :: turns)).symm

namespace Lore

variable {depth : Int} {entries : List LoreEntry} {turns : List Text}

/-- **An entry is called up by turns**: it is enabled, and one of its keywords stands in one of them
as a whole word. -/
def CalledBy (turns : List Text) (e : LoreEntry) : Prop :=
  e.enabled = true ∧ ∃ keyword ∈ e.keywordList, ∃ t ∈ turns, StandsIn keyword t

instance (turns : List Text) (e : LoreEntry) : Decidable (CalledBy turns e) :=
  inferInstanceAs (Decidable (_ ∧ ∃ keyword ∈ _, ∃ t ∈ _, _))

theorem newest_eq_rtake (h : 1 ≤ depth) (turns : List Text) :
    newest depth turns = turns.rtake depth.toNat := by
  rw [newest, if_pos (by omega), List.rtake]

theorem isCalled_join_iff {e : LoreEntry} (h : ∀ keyword ∈ e.keywordList, '\n' ∉ keyword) :
    isCalled (Text.join ['\n'] turns) e = true ↔ CalledBy turns e := by
  rw [isCalled, Bool.and_eq_true, List.any_eq_true, CalledBy]
  refine and_congr_right fun _ => exists_congr fun keyword => and_congr_right fun hk => ?_
  have hne : keyword ≠ [] := by simpa using (List.mem_filter.mp hk).2
  rw [saysWord_iff, standsIn_join hne (h keyword hk)]

/-- Nothing is called up by the empty text. -/
theorem isCalled_nil (e : LoreEntry) : isCalled [] e = false := by
  rw [isCalled, Bool.and_eq_false_iff]
  refine .inr (List.any_eq_false.mpr fun keyword hk => ?_)
  have hne : keyword ≠ [] := by simpa using (List.mem_filter.mp hk).2
  exact fun hsays => not_standsIn_nil hne (saysWord_iff.mp hsays)

/-- The entries that are called up, whether anything was said or not. -/
theorem matching_eq_filter (depth : Int) (entries : List LoreEntry) (turns : List Text) :
    matching depth entries turns =
      entries.filter (isCalled (Text.join ['\n'] (newest depth turns))) := by
  rw [matching]
  split
  · next hempty => simp [List.isEmpty_iff.mp hempty, isCalled_nil]
  · rfl

/-- Older turns are not among the newest ones. -/
theorem rtake_append {older recent : List Text} (h : depth ≤ recent.length) :
    (older ++ recent).rtake depth.toNat = recent.rtake depth.toNat := by
  have hlength : (older ++ recent).length - depth.toNat =
      older.length + (recent.length - depth.toNat) := by
    rw [List.length_append]
    omega
  rw [List.rtake, List.rtake, hlength, List.drop_append, List.drop_of_length_le (by omega)]
  simp

/-- **The entries that turns call up** are those with a keyword that stands as a whole word in one
of the newest turns. Older turns have no part in it. -/
theorem matching_by_turn (hdepth : 1 ≤ depth)
    (h : ∀ e ∈ entries, ∀ keyword ∈ e.keywordList, '\n' ∉ keyword) (turns : List Text) :
    matching depth entries turns = entries.filter (CalledBy (turns.rtake depth.toNat)) ∧
      ∀ older recent : List Text, turns = older ++ recent → depth ≤ recent.length →
        matching depth entries turns = matching depth entries recent := by
  have hmatching : ∀ turns : List Text,
      matching depth entries turns = entries.filter (CalledBy (turns.rtake depth.toNat)) := by
    intro turns
    rw [matching_eq_filter, newest_eq_rtake hdepth]
    refine List.filter_congr fun e he => ?_
    rw [Bool.eq_iff_iff, isCalled_join_iff (h e he), decide_eq_true_eq]
  refine ⟨hmatching turns, ?_⟩
  rintro older recent rfl hlength
  rw [hmatching, hmatching, rtake_append hlength]

/-- **Two of three turns are searched**: the dragon of the first turn is too old, those of the
second are another word, but the sign of the Kelvin in the third is a `k` in another case; and the
tavern is spread over two turns. -/
theorem matching_by_turn_kelvin :
    let cold : LoreEntry := { id := 1, user := 1, keywords := "dragon, k ,", content := "Cold." }
    let tavern : LoreEntry := { id := 2, user := 1, keywords := "old tavern", content := "Beer." }
    let turns : List Text := ["A dragon!", "Dragons, in the old", "tavern, at 2 \u212a."]
    (∀ e ∈ [cold, tavern], ∀ keyword ∈ e.keywordList, '\n' ∉ keyword) ∧
      matching 2 [cold, tavern] turns = [cold] := by
  intro cold tavern turns
  have hkeywords : ∀ e ∈ [cold, tavern], ∀ keyword ∈ e.keywordList, '\n' ∉ keyword := by decide
  exact ⟨hkeywords, (matching_by_turn (by decide) hkeywords turns).1.trans (by decide +kernel)⟩

end Lore

end Roleplay
