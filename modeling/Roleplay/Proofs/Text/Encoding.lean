import Roleplay.Proofs.Except
import Roleplay.Proofs.Json.Strings
import Roleplay.Text.Blank
import Roleplay.Text.Encoding

/-!
# Texts as bytes and back

The bytes of a text are read back as the text. Every character is written in one of four forms, by
the size of its code point, and a form is recognised by its first byte. What the reader refuses are
forms longer than needed, what lies beyond the last character, and halves of surrogate pairs where
they are kept out; no character is written so. All else that it takes are such forms one after
another, so the bytes that are read are those of code points.

## Main definitions

* `Utf8.pointBytes`: the bytes of a code point
* `Utf8.Passes`: the code points that are let through

## Main results

* `Utf8.first_pointBytes`, `Utf8.exists_of_first`: one code point is read back, and only from its
  bytes
* `Utf8.decodeFrom_eq_ok_iff`: the bytes that are read
* `Text.ofUtf8_utf8`: a text is read back
* `Text.readLineEnds_eq_self`: without carriage returns a text has the line ends that reading gives
-/

namespace Roleplay

namespace Utf8

variable {n : Nat}

theorem toNat_toUInt8 (h : n < 256) : n.toUInt8.toNat = n := by
  simp [Nat.mod_eq_of_lt h]

/-- A byte of six bits behind the mark of a continuation. -/
theorem continues_toUInt8 (k : Nat) : continues (0x80 + k % 64).toUInt8 = true := by
  rw [continues, toNat_toUInt8 (by omega), beq_iff_eq]
  omega

/-- **The bytes of a code point**, which may be half of a surrogate pair. -/
def pointBytes (n : Nat) : List UInt8 :=
  if n < 0x80 then [n.toUInt8]
  else if n < 0x800 then [(0xC0 + n / 64).toUInt8, (0x80 + n % 64).toUInt8]
  else if n < 0x10000 then
    [(0xE0 + n / 4096).toUInt8, (0x80 + n / 64 % 64).toUInt8, (0x80 + n % 64).toUInt8]
  else
    [(0xF0 + n / 262144).toUInt8, (0x80 + n / 4096 % 64).toUInt8, (0x80 + n / 64 % 64).toUInt8,
      (0x80 + n % 64).toUInt8]

/-- **The code points that are let through**: all of them, or those of characters. -/
def Passes (surrogates : Bool) (n : Nat) : Prop :=
  n < 0x110000 ∧ (surrogates = true ∨ n < 0xD800 ∨ 0xDFFF < n)

/-! ## The four forms -/

variable {surrogates : Bool}

theorem pointBytes_ne_nil (n : Nat) : pointBytes n ≠ [] := by
  rw [pointBytes]
  split
  · exact List.cons_ne_nil _ _
  · split
    · exact List.cons_ne_nil _ _
    · split <;> exact List.cons_ne_nil _ _

theorem first_one (h : n < 0x80) (bs : List UInt8) :
    first surrogates (n.toUInt8 :: bs) = .ok (n, 1) := by
  simp only [first.eq_def, toNat_toUInt8 (show n < 256 by omega)]
  rw [if_pos h]

theorem first_two (h₁ : 0x80 ≤ n) (h₂ : n < 0x800) (bs : List UInt8) :
    first surrogates ((0xC0 + n / 64).toUInt8 :: (0x80 + n % 64).toUInt8 :: bs) = .ok (n, 2) := by
  have hlead := toNat_toUInt8 (show 0xC0 + n / 64 < 256 by omega)
  have hlast := toNat_toUInt8 (show 0x80 + n % 64 < 256 by omega)
  have hvalue : (0xC0 + n / 64) % 32 * 64 + (0x80 + n % 64) % 64 = n := by omega
  simp only [first.eq_def, hlead, hlast, continues_toUInt8, hvalue]
  rw [if_neg (by omega), if_neg (by omega), if_pos (by omega), if_pos trivial]

theorem first_three (h₁ : 0x800 ≤ n) (h₂ : n < 0x10000)
    (hpair : surrogates = true ∨ n < 0xD800 ∨ 0xDFFF < n) (bs : List UInt8) :
    first surrogates ((0xE0 + n / 4096).toUInt8 :: (0x80 + n / 64 % 64).toUInt8
      :: (0x80 + n % 64).toUInt8 :: bs) = .ok (n, 3) := by
  have hlead := toNat_toUInt8 (show 0xE0 + n / 4096 < 256 by omega)
  have hnext := toNat_toUInt8 (show 0x80 + n / 64 % 64 < 256 by omega)
  have hlast := toNat_toUInt8 (show 0x80 + n % 64 < 256 by omega)
  have hvalue : (0xE0 + n / 4096) % 16 * 4096 + (0x80 + n / 64 % 64) % 64 * 64
      + (0x80 + n % 64) % 64 = n := by omega
  -- neither is the form longer than needed nor is it that of half a pair that is kept out
  have hshort : ¬ (0xE0 + n / 4096 = 0xE0 ∧ 0x80 + n / 64 % 64 < 0xA0) := by omega
  have hwhole : surrogates = true ∨ ¬ (0xE0 + n / 4096 = 0xED ∧ 0x80 + n / 64 % 64 ≥ 0xA0) :=
    hpair.imp_right fun h => by omega
  simp only [first.eq_def, hlead, hnext, hlast, continues_toUInt8, hvalue]
  rw [if_neg (by omega), if_neg (by omega), if_neg (by omega), if_pos (by omega), if_neg]
  · rfl
  · simp only [not_and] at hshort hwhole
    simp
    rcases hwhole with rfl | hwhole
    · simp
      omega
    · omega

theorem first_four (h₁ : 0x10000 ≤ n) (h₂ : n < 0x110000) (bs : List UInt8) :
    first surrogates ((0xF0 + n / 262144).toUInt8 :: (0x80 + n / 4096 % 64).toUInt8
      :: (0x80 + n / 64 % 64).toUInt8 :: (0x80 + n % 64).toUInt8 :: bs) = .ok (n, 4) := by
  have hlead := toNat_toUInt8 (show 0xF0 + n / 262144 < 256 by omega)
  have hnext := toNat_toUInt8 (show 0x80 + n / 4096 % 64 < 256 by omega)
  have hthird := toNat_toUInt8 (show 0x80 + n / 64 % 64 < 256 by omega)
  have hlast := toNat_toUInt8 (show 0x80 + n % 64 < 256 by omega)
  have hvalue : (0xF0 + n / 262144) % 8 * 262144 + (0x80 + n / 4096 % 64) % 64 * 4096
      + (0x80 + n / 64 % 64) % 64 * 64 + (0x80 + n % 64) % 64 = n := by omega
  -- neither is the form longer than needed nor does it lie beyond the last character
  have hshort : ¬ (0xF0 + n / 262144 = 0xF0 ∧ 0x80 + n / 4096 % 64 < 0x90) := by omega
  have hbeyond : ¬ (0xF0 + n / 262144 = 0xF4 ∧ 0x80 + n / 4096 % 64 ≥ 0x90) := by omega
  simp only [first.eq_def, hlead, hnext, hthird, hlast, continues_toUInt8, hvalue]
  rw [if_neg (by omega), if_neg (by omega), if_neg (by omega), if_neg (by omega),
    if_pos (by omega), if_neg, if_neg (by simp), if_neg (by simp)]
  · simp only [not_and] at hshort hbeyond
    simp
    omega

/-- **One code point is read back** from the front of its bytes. -/
theorem first_pointBytes (hn : Passes surrogates n) (bs : List UInt8) :
    first surrogates (pointBytes n ++ bs) = .ok (n, (pointBytes n).length) := by
  rw [pointBytes]
  split
  · next h => exact first_one h bs
  · split
    · next h₁ h₂ => exact first_two (by omega) h₂ bs
    · split
      · next h₁ h₂ => exact first_three (by omega) h₂ hn.2 bs
      · next h => exact first_four (by omega) hn.1 bs

/-! ## What is read off -/

theorem eq_toUInt8 {b : UInt8} {k : Nat} (h : b.toNat = k) : b = k.toUInt8 := by
  rw [← h]
  exact (UInt8.ofNat_toNat).symm

theorem continues_iff {b : UInt8} : continues b = true ↔ 0x80 ≤ b.toNat ∧ b.toNat < 0xC0 := by
  rw [continues, beq_iff_eq]
  omega

variable {b c d e : UInt8}

theorem pointBytes_of_one (surrogates : Bool) (hb : b.toNat < 0x80) :
    Passes surrogates b.toNat ∧ pointBytes b.toNat = [b] := by
  rw [pointBytes, if_pos hb, ← eq_toUInt8 rfl]
  exact ⟨⟨by omega, Or.inr (Or.inl (by omega))⟩, rfl⟩

theorem pointBytes_of_two (hlow : 0xC2 ≤ b.toNat) (hhigh : b.toNat < 0xE0)
    (hc : continues c = true) (hn : b.toNat % 32 * 64 + c.toNat % 64 = n) :
    Passes surrogates n ∧ pointBytes n = [b, c] := by
  rw [continues_iff] at hc
  have h₁ : ¬ n < 0x80 := by omega
  have h₂ : n < 0x800 := by omega
  have hlead : b.toNat = 0xC0 + n / 64 := by omega
  have hlast : c.toNat = 0x80 + n % 64 := by omega
  rw [pointBytes, if_neg h₁, if_pos h₂, ← eq_toUInt8 hlead, ← eq_toUInt8 hlast]
  exact ⟨⟨by omega, Or.inr (Or.inl (by omega))⟩, rfl⟩

theorem pointBytes_of_three (hlow : 0xE0 ≤ b.toNat) (hhigh : b.toNat < 0xF0)
    (hc : continues c = true) (hshort : ¬(b.toNat = 0xE0 ∧ c.toNat < 0xA0))
    (hwhole : ¬((b.toNat = 0xED ∧ 0xA0 ≤ c.toNat) ∧ surrogates = false))
    (hd : continues d = true)
    (hn : b.toNat % 16 * 4096 + c.toNat % 64 * 64 + d.toNat % 64 = n) :
    Passes surrogates n ∧ pointBytes n = [b, c, d] := by
  rw [continues_iff] at hc hd
  have h₁ : ¬ n < 0x80 := by omega
  have h₂ : ¬ n < 0x800 := by omega
  have h₃ : n < 0x10000 := by omega
  have hlead : b.toNat = 0xE0 + n / 4096 := by omega
  have hnext : c.toNat = 0x80 + n / 64 % 64 := by omega
  have hlast : d.toNat = 0x80 + n % 64 := by omega
  rw [pointBytes, if_neg h₁, if_neg h₂, if_pos h₃, ← eq_toUInt8 hlead, ← eq_toUInt8 hnext,
    ← eq_toUInt8 hlast]
  refine ⟨⟨by omega, ?_⟩, rfl⟩
  cases surrogates with
  | true => exact Or.inl rfl
  | false =>
    -- half of a pair has the bytes that are kept out
    have hhalf : ¬(b.toNat = 0xED ∧ 0xA0 ≤ c.toNat) := fun h => hwhole ⟨h, rfl⟩
    exact Or.inr (by omega)

theorem pointBytes_of_four (surrogates : Bool) (hlow : 0xF0 ≤ b.toNat) (hhigh : b.toNat < 0xF5)
    (hc : continues c = true) (hshort : ¬(b.toNat = 0xF0 ∧ c.toNat < 0x90))
    (hbeyond : ¬(b.toNat = 0xF4 ∧ 0x90 ≤ c.toNat)) (hd : continues d = true)
    (he : continues e = true)
    (hn : b.toNat % 8 * 262144 + c.toNat % 64 * 4096 + d.toNat % 64 * 64 + e.toNat % 64 = n) :
    Passes surrogates n ∧ pointBytes n = [b, c, d, e] := by
  rw [continues_iff] at hc hd he
  have h₁ : ¬ n < 0x80 := by omega
  have h₂ : ¬ n < 0x800 := by omega
  have h₃ : ¬ n < 0x10000 := by omega
  have hlead : b.toNat = 0xF0 + n / 262144 := by omega
  have hnext : c.toNat = 0x80 + n / 4096 % 64 := by omega
  have hthird : d.toNat = 0x80 + n / 64 % 64 := by omega
  have hlast : e.toNat = 0x80 + n % 64 := by omega
  rw [pointBytes, if_neg h₁, if_neg h₂, if_neg h₃, ← eq_toUInt8 hlead, ← eq_toUInt8 hnext,
    ← eq_toUInt8 hthird, ← eq_toUInt8 hlast]
  exact ⟨⟨by omega, Or.inr (Or.inr (by omega))⟩, rfl⟩

/-- **What is read off the front** is a code point that is let through, from its own bytes. -/
theorem exists_of_first {bytes : List UInt8} {k : Nat} (h : first surrogates bytes = .ok (n, k)) :
    Passes surrogates n ∧ k = (pointBytes n).length ∧ ∃ bs, bytes = pointBytes n ++ bs := by
  rw [first.eq_def] at h
  split at h
  · cases h
  next b rest =>
  dsimp only at h
  split at h
  · next hb =>
    cases h
    obtain ⟨hpasses, hbytes⟩ := pointBytes_of_one surrogates hb
    rw [hbytes]
    exact ⟨hpasses, rfl, rest, rfl⟩
  split at h
  · cases h
  split at h
  · -- two bytes
    next hlow hhigh =>
    split at h
    · cases h
    next c rest =>
    split at h
    · next hc =>
      cases h
      obtain ⟨hpasses, hbytes⟩ := pointBytes_of_two (Nat.not_lt.mp hlow) hhigh hc rfl
      rw [hbytes]
      exact ⟨hpasses, rfl, rest, rfl⟩
    · cases h
  split at h
  · -- three bytes
    next hlow hhigh =>
    split at h
    · cases h
    · split at h <;> cases h
    next c d rest =>
    split at h
    · cases h
    next hfits =>
    split at h
    · next hd =>
      cases h
      simp only [Bool.not_eq_true', Bool.and_eq_false_iff, Bool.not_eq_false', Bool.and_eq_true,
        beq_iff_eq, decide_eq_true_eq, not_or, Bool.not_eq_false] at hfits
      obtain ⟨⟨hc, hshort⟩, hwhole⟩ := hfits
      obtain ⟨hpasses, hbytes⟩ :=
        pointBytes_of_three (Nat.not_lt.mp hlow) hhigh hc hshort hwhole hd rfl
      rw [hbytes]
      exact ⟨hpasses, rfl, rest, rfl⟩
    · split at h <;> cases h
  split at h
  · -- four bytes
    next hlow hhigh =>
    split at h
    · cases h
    · split at h <;> cases h
    · split at h
      · cases h
      · split at h <;> cases h
    next c d e rest =>
    split at h
    · cases h
    next hfits =>
    split at h
    · cases h
    next hd =>
    split at h
    · cases h
    next he =>
    cases h
    simp only [Bool.not_eq_true', Bool.and_eq_false_iff, Bool.not_eq_false', Bool.and_eq_true,
      beq_iff_eq, decide_eq_true_eq, not_or, Bool.not_eq_false] at hfits hd he
    obtain ⟨⟨hc, hshort⟩, hbeyond⟩ := hfits
    obtain ⟨hpasses, hbytes⟩ := pointBytes_of_four surrogates
      (Nat.not_lt.mp hlow) hhigh hc hshort hbeyond hd he rfl
    rw [hbytes]
    exact ⟨hpasses, rfl, rest, rfl⟩
  · cases h

/-! ## Texts -/

/-- Bytes of a character that was read already are passed over. -/
theorem decodeFrom_skip (surrogates : Bool) (place : Nat) (passed bs : List UInt8) :
    decodeFrom surrogates place passed.length (passed ++ bs) =
      decodeFrom surrogates (place + passed.length) 0 bs := by
  induction passed generalizing place with
  | nil => rfl
  | cons b passed ih =>
    rw [List.length_cons, List.cons_append, decodeFrom, ih]
    congr 1
    omega

theorem decodeFrom_pointBytes (hn : Passes surrogates n) (place : Nat) (bs : List UInt8) :
    decodeFrom surrogates place 0 (pointBytes n ++ bs) =
      (charOfPoint n :: ·) <$> decodeFrom surrogates (place + (pointBytes n).length) 0 bs := by
  have hfirst := first_pointBytes hn bs
  obtain ⟨b, passed, hbytes⟩ := List.exists_cons_of_ne_nil (pointBytes_ne_nil n)
  rw [hbytes, List.cons_append] at hfirst
  rw [hbytes, List.cons_append, decodeFrom, hfirst]
  simp only [List.length_cons, Nat.add_sub_cancel]
  rw [decodeFrom_skip]
  congr 2
  omega

/-- **Code points that are let through are read back** from their bytes. -/
theorem decodeFrom_flatMap {ns : List Nat} (hns : ∀ n ∈ ns, Passes surrogates n) (place : Nat) :
    decodeFrom surrogates place 0 (ns.flatMap pointBytes) = .ok (ns.map charOfPoint) := by
  induction ns generalizing place with
  | nil => rfl
  | cons n ns ih =>
    obtain ⟨hn, hns⟩ := List.forall_mem_cons.mp hns
    rw [List.flatMap_cons, decodeFrom_pointBytes hn, ih hns]
    rfl

theorem passes_toNat (c : Char) : Passes surrogates c.toNat :=
  ⟨(Json.toNat_valid c).2, Or.inr (Json.toNat_valid c).1⟩

theorem decodeFrom_utf8 (t : Text) (place : Nat) :
    decodeFrom surrogates place 0 t.utf8 = .ok t := by
  have hbytes : t.utf8 = (t.map Char.toNat).flatMap pointBytes := by
    rw [List.flatMap_map]
    rfl
  have hid : charOfPoint ∘ Char.toNat = id := funext Json.charOfPoint_toNat
  have htext : (t.map Char.toNat).map charOfPoint = t := by
    rw [List.map_map, hid, List.map_id]
  rw [hbytes, decodeFrom_flatMap, htext]
  intro n hn
  obtain ⟨c, -, rfl⟩ := List.mem_map.mp hn
  exact passes_toNat c

/-- **What is read is code points** from their own bytes. -/
theorem exists_of_decodeFrom {place : Nat} {bytes : List UInt8} {t : Text}
    (h : decodeFrom surrogates place 0 bytes = .ok t) :
    ∃ ns : List Nat, (∀ n ∈ ns, Passes surrogates n) ∧ bytes = ns.flatMap pointBytes ∧
      t = ns.map charOfPoint := by
  -- by the number of bytes, for one code point takes several
  induction hlength : bytes.length using Nat.strong_induction_on generalizing bytes place t with
  | _ length ih =>
    cases bytes with
    | nil =>
      rw [decodeFrom] at h
      cases h
      exact ⟨[], by simp, rfl, rfl⟩
    | cons b bs =>
      cases hfirst : first surrogates (b :: bs) with
      | error e =>
        rw [decodeFrom, hfirst] at h
        cases h
      | ok p =>
        obtain ⟨n, k⟩ := p
        obtain ⟨hn, -, rest, hbytes⟩ := exists_of_first hfirst
        rw [hbytes] at h hlength ⊢
        rw [decodeFrom_pointBytes hn] at h
        obtain ⟨t', ht', rfl⟩ := Except.exists_of_map_eq_ok h
        have hpos := List.length_pos_iff.mpr (pointBytes_ne_nil n)
        rw [List.length_append] at hlength
        obtain ⟨ns, hns, hrest, htext⟩ := ih _ (by omega) ht' rfl
        exact ⟨n :: ns, List.forall_mem_cons.mpr ⟨hn, hns⟩, by rw [hrest]; rfl, by rw [htext]; rfl⟩

/-- **Bytes that are read** are those of code points that are let through. -/
theorem decodeFrom_eq_ok_iff {place : Nat} {bytes : List UInt8} {t : Text} :
    decodeFrom surrogates place 0 bytes = .ok t ↔
      ∃ ns : List Nat, (∀ n ∈ ns, Passes surrogates n) ∧ bytes = ns.flatMap pointBytes ∧
        t = ns.map charOfPoint := by
  refine ⟨exists_of_decodeFrom, ?_⟩
  rintro ⟨ns, hns, rfl, rfl⟩
  exact decodeFrom_flatMap hns place

end Utf8

namespace Text

/-- **A text is read back** from its bytes. -/
theorem ofUtf8_utf8 (t : Text) : ofUtf8 t.utf8 = .ok t :=
  Utf8.decodeFrom_utf8 t 0

/-- **Without carriage returns** a text has the line ends that reading gives. -/
theorem readLineEnds_eq_self {t : Text} (h : '\r' ∉ t) : t.readLineEnds = t := by
  induction t with
  | nil => rfl
  | cons c t ih =>
    obtain ⟨hc, ht⟩ := not_or.mp (mt List.mem_cons.mpr h)
    rw [readLineEnds.eq_3 c t fun _ hcr => absurd hcr.symm hc, ih ht, if_neg (Ne.symm hc)]

end Text

end Roleplay
