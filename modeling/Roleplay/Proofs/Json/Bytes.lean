import Roleplay.Proofs.Json.Reading
import Roleplay.Proofs.Text.Formats

/-!
# Documents from bytes

The format of a document is told from its first bytes: by a byte order mark, or without one by the
places of the bytes that are zero. A document of an object begins with two characters of seven bits,
and so its format is told whichever it is, with a mark and without one. An object is read exactly
from the bytes of its documents.

## Main definitions

* `Encoding.mark`: the byte order mark of a format
* `Json.BytesOf`: the bytes of a text, in any format and with a mark or without one

## Main results

* `Json.formatOf_eq`: the format is told
* `Json.readBytes_obj_iff`: the bytes from which an object is read
-/

namespace Roleplay

/-- **The byte order mark** of a format. -/
def Encoding.mark : Encoding → List UInt8
  | .utf8 => [0xEF, 0xBB, 0xBF]
  | .utf16le => [0xFF, 0xFE]
  | .utf16be => [0xFE, 0xFF]
  | .utf32le => [0xFF, 0xFE, 0, 0]
  | .utf32be => [0, 0, 0xFE, 0xFF]

namespace Json

/-- **The bytes of a text**, in any format and with a mark or without one. -/
def BytesOf (t : Text) (bytes : List UInt8) : Prop :=
  ∃ (e : Encoding) (m body : List UInt8),
    bytes = m ++ body ∧ (m = [] ∨ m = e.mark) ∧ e.Encodes t body

/-! ## How a document of an object begins -/

/-- **The characters of seven bits** without the one of zeros only. -/
def Ascii (c : Char) : Prop :=
  0 < c.toNat ∧ c.toNat < 0x80

theorem ascii_of_isSpace {c : Char} (h : isSpace c = true) : Ascii c := by
  simp only [isSpace, Bool.or_eq_true, beq_iff_eq] at h
  rcases h with ((rfl | rfl) | rfl) | rfl <;> exact ⟨by decide, by decide⟩

variable {fits : Nat → Prop}

/-- Members begin with the quote of a name. -/
theorem Spells.exists_quote {t : Text} {ms : List (Text × Json)}
    (h : Spells fits t (.members ms)) : ∃ t', t = '"' :: t' := by
  have hmember : ∀ {t : Text} {k : Text} {v : Json}, Spells fits t (.member k v) →
      ∃ t', t = '"' :: t' := by
    intro t k v h
    cases h with
    | member ht =>
      obtain ⟨u, ns, -, rfl, -⟩ := ht
      exact ⟨_, rfl⟩
  cases h with
  | lastMember ht =>
    obtain ⟨t', rfl⟩ := hmember ht
    exact ⟨_, rfl⟩
  | nextMember ht =>
    obtain ⟨t', rfl⟩ := hmember ht
    exact ⟨_, rfl⟩

/-- **A document of an object begins** with two characters of seven bits. -/
theorem IsDocument.exists_ascii {t : Text} {ms : Members} (h : IsDocument fits t (.obj ms)) :
    ∃ c d t', t = c :: d :: t' ∧ Ascii c ∧ Ascii d := by
  obtain ⟨w, u, w', hw, hu, -, rfl⟩ := h
  have hbrace : Ascii '\x7b' := ⟨by decide, by decide⟩
  -- the brace, and what stands behind it
  obtain ⟨d, u', rfl, hd⟩ : ∃ d u', u = '\x7b' :: d :: u' ∧ Ascii d := by
    cases hu with
    | word h => simp [words] at h
    | number h => cases h
    | @emptyObject w hw =>
      cases w with
      | nil => exact ⟨'\x7d', [], rfl, by decide, by decide⟩
      | cons c w => exact ⟨c, _, rfl, ascii_of_isSpace (hw c List.mem_cons_self)⟩
    | @object w t ms hw ht =>
      cases w with
      | nil =>
        obtain ⟨t', rfl⟩ := ht.exists_quote
        exact ⟨'"', _, rfl, by decide, by decide⟩
      | cons c w => exact ⟨c, _, rfl, ascii_of_isSpace (hw c List.mem_cons_self)⟩
  cases w with
  | nil => exact ⟨_, _, _, rfl, hbrace, hd⟩
  | cons c w =>
    have hc := ascii_of_isSpace (hw c List.mem_cons_self)
    cases w with
    | nil => exact ⟨c, _, _, rfl, hc, hbrace⟩
    | cons c' w => exact ⟨c, c', _, rfl, hc, ascii_of_isSpace (hw c' (by simp))⟩

/-! ## How its bytes begin -/

theorem toNat_ofNat {n : Nat} (h : n < 0xD800 ∨ 0xDFFF < n ∧ n < 0x110000) :
    (Char.ofNat n).toNat = n := by
  have hvalid : n.isValidChar := h
  rw [Char.ofNat, dif_pos hvalid]
  rfl

theorem eq_toNat_of_charOfPoint {n : Nat} {c : Char} (hn : n < 0x110000) (hc : Ascii c)
    (h : charOfPoint n = c) : n = c.toNat := by
  rw [charOfPoint] at h
  split at h
  · rw [← h] at hc
    exact absurd hc.2 (by decide)
  · next hhalf =>
    simp only [Bool.and_eq_true, decide_eq_true_eq] at hhalf
    rw [← h, toNat_ofNat (by omega)]

/-- The first unit of a text that begins with a character of seven bits is that character's. -/
theorem exists_cons_of_textOf {e : Encoding} {ns : List Nat} {c : Char} {t : Text}
    (hns : ∀ n ∈ ns, n < e.bound) (hc : Ascii c) (h : c :: t = e.textOf ns) :
    ∃ ns', ns = c.toNat :: ns' ∧ t = e.textOf ns' := by
  have hmap : ∀ {ns : List Nat}, (∀ n ∈ ns, n < 0x110000) → c :: t = ns.map charOfPoint →
      ∃ ns', ns = c.toNat :: ns' ∧ t = ns'.map charOfPoint := by
    intro ns hns h
    obtain ⟨n, ns, rfl, hn, rfl⟩ := List.map_eq_cons_iff.mp h.symm
    rw [eq_toNat_of_charOfPoint (hns n List.mem_cons_self) hc hn]
    exact ⟨ns, rfl, rfl⟩
  have hjoin : ∀ {ns : List Nat}, (∀ n ∈ ns, n < 0x10000) → c :: t = joinSurrogates ns →
      ∃ ns', ns = c.toNat :: ns' ∧ t = joinSurrogates ns' := by
    intro ns hns h
    fun_cases joinSurrogates ns with
    | case1 => cases h
    | case2 n =>
      have hn := hns n List.mem_cons_self
      cases h
      exact ⟨[], by rw [← eq_toNat_of_charOfPoint (by omega) hc rfl], rfl⟩
    | case3 n m ns hpair =>
      -- a pair is no character of seven bits
      have hlarge : ¬ c.toNat < 0x80 := by
        rw [joinSurrogates, if_pos hpair] at h
        rw [(List.cons.inj h).1, toNat_ofNat (by omega)]
        omega
      exact absurd hc.2 hlarge
    | case4 n m ns hpair =>
      have hn := hns n List.mem_cons_self
      rw [joinSurrogates, if_neg hpair] at h
      obtain ⟨hc', rfl⟩ := List.cons.inj h
      exact ⟨m :: ns, by rw [eq_toNat_of_charOfPoint (by omega) hc hc'.symm], rfl⟩
  cases e with
  | utf8 => exact hmap hns h
  | utf16le => exact hjoin hns h
  | utf16be => exact hjoin hns h
  | utf32le => exact hmap hns h
  | utf32be => exact hmap hns h

/-- **How the bytes of a text begin** that begins with two characters of seven bits. -/
theorem exists_of_encodes {e : Encoding} {c d : Char} {t : Text} {body : List UInt8}
    (hc : Ascii c) (hd : Ascii d) (h : e.Encodes (c :: d :: t) body) :
    ∃ rest, body = e.unitBytes c.toNat ++ (e.unitBytes d.toNat ++ rest) := by
  obtain ⟨ns, hns, rfl, htext⟩ := h
  obtain ⟨ns, rfl, htail⟩ := exists_cons_of_textOf hns hc htext
  obtain ⟨ns, rfl, -⟩ :=
    exists_cons_of_textOf (fun n hn => hns n (List.mem_cons_of_mem _ hn)) hd htail
  exact ⟨ns.flatMap e.unitBytes, by rw [List.flatMap_cons, List.flatMap_cons]⟩

/-! ## The format -/

/-- **The format is told**, with a mark and without one, of bytes that begin with the units of two
characters of seven bits. -/
theorem formatOf_eq {e : Encoding} {m : List UInt8} (hm : m = [] ∨ m = e.mark) {c d : Char}
    (hc : Ascii c) (hd : Ascii d) (rest : List UInt8) :
    formatOf (m ++ (e.unitBytes c.toNat ++ (e.unitBytes d.toNat ++ rest))) = (e, m.length) := by
  obtain ⟨hc₀, hc₁⟩ := hc
  obtain ⟨hd₀, hd₁⟩ := hd
  -- the lowest byte of a unit is the character, and the others are zeros
  have hlow : ∀ n : Nat, n < 0x80 → n.toUInt8.toNat = n :=
    fun n hn => Utf8.toNat_toUInt8 (by omega)
  have hzero : ∀ n : Nat, n < 0x80 →
      n / 0x100 = 0 ∧ n / 0x10000 = 0 ∧ n / 0x1000000 = 0 := fun n hn => by omega
  obtain ⟨hc₂, hc₃, hc₄⟩ := hzero _ hc₁
  obtain ⟨hd₂, hd₃, hd₄⟩ := hzero _ hd₁
  have hnull : (0 : Nat).toUInt8.toNat = 0 := rfl
  cases e
  all_goals
    rcases hm with rfl | rfl
    all_goals
      simp only [Encoding.unitBytes, Encoding.mark, Utf8.pointBytes, if_pos hc₁, if_pos hd₁,
        formatOf, List.map_cons, hlow _ hc₁, hlow _ hd₁, hc₂, hc₃, hc₄, hd₂, hd₃, hd₄, hnull,
        List.nil_append, List.cons_append]
      grind

/-- **The mark that is told** is that of the format, where there is one. -/
theorem mark_of_formatOf {bytes : List UInt8} {e : Encoding} {k : Nat}
    (h : formatOf bytes = (e, k)) : bytes.take k = [] ∨ bytes.take k = e.mark := by
  -- as numbers the first bytes are those of a mark, or none are taken
  have hmark : (bytes.take k).map UInt8.toNat = e.mark.map UInt8.toNat ∨ k = 0 := by
    rw [List.map_take]
    rw [formatOf] at h
    split at h
    case h_1 | h_2 | h_3 | h_4 | h_5 =>
      next hbytes =>
      cases h
      rw [hbytes]
      exact Or.inl rfl
    all_goals
      cases h
      exact Or.inr rfl
  rcases hmark with hmark | rfl
  · exact Or.inr ((List.map_inj_right fun _ _ => UInt8.toNat_inj.mp).mp hmark)
  · exact Or.inl rfl

/-! ## Documents -/

/-- The bytes of a text in the format that is told are bytes of the text. -/
theorem bytesOf_of_encodes {bytes : List UInt8} {t : Text}
    (ht : (formatOf bytes).1.Encodes t (bytes.drop (formatOf bytes).2)) : BytesOf t bytes :=
  ⟨_, _, _, (List.take_append_drop (formatOf bytes).2 bytes).symm, mark_of_formatOf rfl, ht⟩

/-- **Bytes are refused** that are no text in the format that is told. -/
theorem exists_decodeFault {bytes : List UInt8}
    (h : ∀ t, ¬ (formatOf bytes).1.Encodes t (bytes.drop (formatOf bytes).2)) :
    ∃ f, readBytes bytes = .error (.decode f) := by
  rw [readBytes]
  dsimp only
  split
  · exact ⟨_, rfl⟩
  · next t hdecode => exact absurd (Encoding.decodeAt_eq_ok_iff.mp hdecode) (h t)

/-- **Bytes are read as the text** of which they are the bytes in the format that is told. -/
theorem readBytes_of_encodes {bytes : List UInt8} {t : Text}
    (ht : (formatOf bytes).1.Encodes t (bytes.drop (formatOf bytes).2)) :
    readBytes bytes = (readDocument t).mapError .read := by
  rw [readBytes]
  dsimp only
  rw [Encoding.decodeAt_eq_ok_iff.mpr ht]

/-- Bytes that are read are those of a text in the format that is told. -/
theorem exists_of_readBytes {bytes : List UInt8} {v : Json} (h : readBytes bytes = .ok v) :
    ∃ t, (formatOf bytes).1.Encodes t (bytes.drop (formatOf bytes).2) ∧
      IsDocument (· ≤ Numeral.maxDigits) t v := by
  have hencodes : ∃ t, (formatOf bytes).1.Encodes t (bytes.drop (formatOf bytes).2) := by
    rw [readBytes] at h
    dsimp only at h
    split at h
    · cases h
    · next t hdecode => exact ⟨t, Encoding.decodeAt_eq_ok_iff.mp hdecode⟩
  obtain ⟨t, ht⟩ := hencodes
  refine ⟨t, ht, readDocument_eq_ok_iff.mp ?_⟩
  rw [readBytes_of_encodes ht] at h
  cases hread : readDocument t with
  | error f =>
    rw [hread] at h
    cases h
  | ok w =>
    rw [hread] at h
    cases h
    rfl

/-- **The bytes from which an object is read** are those of its documents. -/
theorem readBytes_obj_iff {bytes : List UInt8} {ms : Members} :
    readBytes bytes = .ok (.obj ms) ↔
      ∃ t, BytesOf t bytes ∧ IsDocument (· ≤ Numeral.maxDigits) t (.obj ms) := by
  constructor
  · intro h
    obtain ⟨t, ht, hdocument⟩ := exists_of_readBytes h
    exact ⟨t, bytesOf_of_encodes ht, hdocument⟩
  · rintro ⟨t, ⟨e, m, body, rfl, hm, ht⟩, hdocument⟩
    obtain ⟨c, d, t', rfl, hc, hd⟩ := hdocument.exists_ascii
    obtain ⟨rest, rfl⟩ := exists_of_encodes hc hd ht
    have htold := formatOf_eq hm hc hd rest
    rw [readBytes_of_encodes (t := c :: d :: t') (by rw [htold, List.drop_left]; exact ht),
      readDocument_eq_ok_iff.mpr hdocument]
    rfl

end Json

end Roleplay
