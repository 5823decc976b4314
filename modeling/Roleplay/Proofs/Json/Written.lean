import Roleplay.Proofs.Json.ReadBack
import Roleplay.Proofs.Text.Lines

/-!
# Documents in files

A value can be written when no whole number in it is too long, and then all its parts can. The only
character outside of the strings of a document that ends a line is the line feed, and inside of a
string a carriage return is escaped. So a document has the same text in a file, where every line end
is read as a line feed.

## Main results

* `Json.isWritable_obj_iff`: an object can be written when its members can
* `Json.notMem_writeString`: no string has a carriage return
* `Json.notMem_write_indented`: no document has one
-/

namespace Roleplay

namespace Text

theorem notMem_of_allDigits {t : Text} (h : t.AllDigits) {c : Char} (hc : c.isDigit = false) :
    c ∉ t :=
  fun hmem => Bool.false_ne_true (hc.symm.trans (h c hmem))

end Text

namespace Json

/-! ## Values that can be written -/

theorem isWritable_obj_iff {ms : Members} :
    (Json.obj ms).isWritable = true ↔ ∀ m ∈ ms, m.2.isWritable = true := by
  rw [isWritable]
  induction ms with
  | nil => simp [membersWritable]
  | cons m ms ih =>
    obtain ⟨k, v⟩ := m
    rw [membersWritable, Bool.and_eq_true, ih, List.forall_mem_cons]

/-- A whole number that can be written is one that can be read. -/
theorem sound_int {i : Int} (h : (Json.int i).isWritable = true) : (Json.int i).Sound := by
  -- for any number of digits, so that the power is not computed
  have hpow : ∀ n, i.natAbs < Nat.pow 10 n → i.natAbs < 10 ^ n := fun _ hn => hn
  rw [isWritable, fitsNumeral, decide_eq_true_eq] at h
  exact .int (hpow _ h)

/-! ## Strings and numbers -/

theorem digitChar_ne_return {n : Nat} (hn : n < 16) : n.digitChar ≠ '\r' := by
  have hall : ∀ k : Fin 16, Nat.digitChar k ≠ '\r' := by decide
  exact hall ⟨n, hn⟩

theorem notMem_unitEscape {n : Nat} (hn : n < 0x10000) : '\r' ∉ unitEscape n := by
  rw [unitEscape, hex_eq hn]
  simp only [List.mem_cons, List.not_mem_nil, or_false, not_or]
  exact ⟨by decide, by decide, (digitChar_ne_return (by omega)).symm,
    (digitChar_ne_return (by omega)).symm, (digitChar_ne_return (by omega)).symm,
    (digitChar_ne_return (by omega)).symm⟩

/-- **A character in a string** is written without a carriage return. -/
theorem notMem_writeChar (escape : Bool) (c : Char) : '\r' ∉ writeChar escape c := by
  have hwritten := written_writeChar escape c
  generalize writeChar escape c = t at hwritten ⊢
  cases hwritten with
  | letter hk =>
    simp only [List.mem_cons, List.not_mem_nil, or_false, not_or]
    refine ⟨by decide, ?_⟩
    rintro rfl
    cases hk
  | unit h => exact notMem_unitEscape h
  | pair _ h =>
    have hsize := (toNat_valid c).2
    rw [List.mem_append, not_or]
    exact ⟨notMem_unitEscape (by omega), notMem_unitEscape (by omega)⟩
  | itself _ _ hcontrol _ =>
    rw [List.mem_singleton]
    rintro rfl
    exact hcontrol (by decide)

/-- **No string** has a carriage return. -/
theorem notMem_writeString (escape : Bool) (s : Text) : '\r' ∉ writeString escape s := by
  rw [writeString, List.mem_append, List.mem_append, not_or, not_or]
  refine ⟨⟨by decide, ?_⟩, by decide⟩
  rw [List.mem_flatMap]
  rintro ⟨c, -, hc⟩
  exact notMem_writeChar escape c hc

theorem notMem_ofInt (i : Int) : '\r' ∉ Text.ofInt i := by
  have hdigits : ∀ n, '\r' ∉ Text.ofNat n :=
    fun n => Text.notMem_of_allDigits (Text.allDigits_ofNat n) (by decide)
  cases i with
  | ofNat n => exact hdigits n
  | negSucc n => exact List.not_mem_cons_of_ne_of_not_mem (by decide) (hdigits (n + 1))

theorem notMem_literal {l : Numeral.Literal} (h : l.WellFormed) : '\r' ∉ l.text := by
  have hfraction : '\r' ∉ l.fractionText := by
    rw [Numeral.Literal.fractionText]
    split
    · exact List.not_mem_nil
    · exact List.not_mem_cons_of_ne_of_not_mem (by decide)
        (Text.notMem_of_allDigits h.fraction (by decide))
  have hexponent : '\r' ∉ l.exponentText := by
    rw [Numeral.Literal.exponentText]
    split
    · exact List.not_mem_nil
    · next negative ds hsome =>
      have hds := Text.notMem_of_allDigits (h.exponent _ hsome).1 (c := '\r') (by decide)
      cases negative <;> simp [hds]
  rw [Numeral.Literal.text, List.mem_append, List.mem_append, not_or, not_or]
  exact ⟨⟨Text.notMem_of_allDigits h.whole (by decide), hfraction⟩, hexponent⟩

theorem notMem_writeFinite (l : Layout) (negative : Bool) {m : Nat} {e : Int}
    (hc : Binary64.Canonical m e) : '\r' ∉ l.writeFinite negative m e := by
  obtain ⟨t, hwell, -, htext, -⟩ := l.exists_literal_writeFinite negative hc
  have hmark : '\r' ∉ (if negative then ['-'] else []) := by cases negative <;> decide
  rw [htext, List.mem_append, not_or]
  exact ⟨hmark, notMem_literal hwell⟩

theorem notMem_namedNumber {x : Binary64} (h : x.IsCanonical) : '\r' ∉ namedNumber x := by
  cases x with
  | finite negative m e => exact notMem_writeFinite .wide negative h
  | nan => exact show '\r' ∉ "NaN".toList by decide
  | infinity negative =>
    cases negative with
    | false => exact show '\r' ∉ "Infinity".toList by decide
    | true => exact show '\r' ∉ "-Infinity".toList by decide

/-! ## Documents -/

theorem notMem_newLine (style : Style) (depth : Nat) : '\r' ∉ style.newLine depth := by
  rw [Style.newLine]
  split
  · exact List.not_mem_nil
  · refine List.not_mem_cons_of_ne_of_not_mem (by decide) fun h => ?_
    exact absurd (List.eq_of_mem_replicate h) (by decide)

/-- Parts without a carriage return stand between their brackets without one. -/
theorem notMem_bracket {style : Style} (hcomma : '\r' ∉ style.comma) (depth : Nat)
    {left right : Char} (hleft : '\r' ≠ left) (hright : '\r' ≠ right) {parts : List Text}
    (h : ∀ part ∈ parts, '\r' ∉ part) : '\r' ∉ style.bracket depth left right parts := by
  have hline := notMem_newLine style
  rw [Style.bracket]
  split
  · simp [hleft, hright]
  · have hjoin : '\r' ∉ Text.join (style.comma ++ style.newLine (depth + 1)) parts := by
      intro hmem
      rcases Text.mem_join hmem with hsep | ⟨part, hpart, hc⟩
      · exact (List.mem_append.mp hsep).elim hcomma (hline _)
      · exact h part hpart hc
    simp [hleft, hright, hline, hjoin]

/-- **No document in the indented style** has a carriage return. -/
theorem notMem_write_indented {v : Json} (hv : v.Sound) : '\r' ∉ write .indented v := by
  have hat : ∀ depth, '\r' ∉ writeAt .indented depth v := by
    -- the parts of a value are written one step deeper
    induction hv with
    | null =>
      intro depth
      rw [writeAt]
      decide
    | bool b =>
      intro depth
      cases b <;> (rw [writeAt]; decide)
    | int _ =>
      intro depth
      rw [writeAt]
      exact notMem_ofInt _
    | float h =>
      intro depth
      rw [writeAt]
      exact notMem_namedNumber h
    | str s =>
      intro depth
      rw [writeAt]
      exact notMem_writeString _ s
    | arr _ ih =>
      intro depth
      rw [writeAt, writeItems_eq_map]
      refine notMem_bracket (by decide) depth (by decide) (by decide) ?_
      rintro part hpart
      obtain ⟨x, hx, rfl⟩ := List.mem_map.mp hpart
      exact ih x hx (depth + 1)
    | obj _ _ ih =>
      intro depth
      rw [writeAt, writeMembers_eq_map]
      refine notMem_bracket (by decide) depth (by decide) (by decide) ?_
      rintro part hpart
      obtain ⟨m, hm, rfl⟩ := List.mem_map.mp hpart
      have hcolon : '\r' ∉ Style.indented.colon := by decide
      simp only [List.mem_append, not_or]
      exact ⟨⟨notMem_writeString _ m.1, hcolon⟩, ih m hm (depth + 1)⟩
  exact hat 0

end Json

end Roleplay
