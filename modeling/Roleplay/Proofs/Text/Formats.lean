import Roleplay.Proofs.Text.Encoding

/-!
# Texts in the transformation formats

Each format writes a text in units: code points in UTF-8 and UTF-32, and in UTF-16 numbers of two
bytes, two of which make one character where they are the halves of a pair. The bytes that can be
read in a format are those of its units, and what is read is the text of the units.

## Main definitions

* `Utf16.Order`, `Utf32.Order`: the orders of the bytes of a unit
* `Encoding.unitBytes`, `Encoding.bound`, `Encoding.textOf`: the bytes of a unit, the bound of
  units, and the text of units
* `Encoding.Encodes`: the bytes of a text

## Main results

* `Utf16.Order.decodeFrom_eq_ok_iff`, `Utf32.Order.decodeFrom_eq_ok_iff`: the bytes that are read,
  in any order
* `Encoding.decodeAt_eq_ok_iff`: the bytes that are read are those of the text
-/

namespace Roleplay

/-! ## Units of two bytes -/

namespace Utf16

/-- **An order of two bytes**: the units are the numbers of two bytes, each of its own bytes. -/
structure Order (unit : UInt8 → UInt8 → Nat) (bytesOf : Nat → List UInt8) : Prop where
  lt : ∀ a b, unit a b < 0x10000
  bytesOf_unit : ∀ a b, bytesOf (unit a b) = [a, b]
  surjective : ∀ u, u < 0x10000 → ∃ a b, unit a b = u

variable {encoding : Encoding} {unit : UInt8 → UInt8 → Nat} {bytesOf : Nat → List UInt8}
  {place : Nat} {bytes : List UInt8} {us : List Nat} {t : Text}

/-- The bytes of units may stand in the other order. -/
theorem Order.reverse (h : Order unit bytesOf) :
    Order (fun a b => unit b a) fun u => (bytesOf u).reverse where
  lt a b := h.lt b a
  bytesOf_unit a b := by
    rw [h.bytesOf_unit]
    rfl
  surjective u hu := by
    obtain ⟨a, b, hu⟩ := h.surjective u hu
    exact ⟨b, a, hu⟩

/-- **Units are read back** from their bytes, two of them as one where they are the halves of a
pair. -/
theorem Order.decodeFrom_flatMap (h : Order unit bytesOf) (hus : ∀ u ∈ us, u < 0x10000)
    (place : Nat) :
    decodeFrom encoding unit place (us.flatMap bytesOf) = .ok (Json.joinSurrogates us) := by
  fun_induction Json.joinSurrogates us generalizing place with
  | case1 => rfl
  | case2 n =>
    obtain ⟨a, b, rfl⟩ := h.surjective n (hus n List.mem_cons_self)
    rw [List.flatMap_singleton, h.bytesOf_unit]
    rfl
  | case3 n m ns hpair ih =>
    obtain ⟨a, b, rfl⟩ := h.surjective n (hus n (by simp))
    obtain ⟨c, d, rfl⟩ := h.surjective m (hus m (by simp))
    simp only [List.flatMap_cons, h.bytesOf_unit, List.cons_append, List.nil_append]
    rw [decodeFrom, if_pos (by simpa [and_assoc] using hpair), ih fun u hu => hus u (by simp [hu])]
    rfl
  | case4 n m ns hpair ih =>
    obtain ⟨a, b, rfl⟩ := h.surjective n (hus n (by simp))
    obtain ⟨c, d, rfl⟩ := h.surjective m (hus m (by simp))
    have hrest := ih (fun u hu => hus u (List.mem_cons_of_mem _ hu)) (place + 2)
    simp only [List.flatMap_cons, h.bytesOf_unit, List.cons_append, List.nil_append] at hrest ⊢
    rw [decodeFrom, if_neg (by simpa [and_assoc] using hpair), hrest]
    rfl

/-- The first unit of bytes is that of the first two. -/
theorem Order.exists_cons (h : Order unit bytesOf) (hus : ∀ u ∈ us, u < 0x10000) {a b : UInt8}
    (hbytes : a :: b :: bytes = us.flatMap bytesOf) :
    ∃ us', us = unit a b :: us' ∧ bytes = us'.flatMap bytesOf := by
  cases us with
  | nil => cases hbytes
  | cons u us =>
    obtain ⟨c, d, rfl⟩ := h.surjective u (hus u List.mem_cons_self)
    rw [List.flatMap_cons, h.bytesOf_unit] at hbytes
    cases hbytes
    exact ⟨us, rfl, rfl⟩

/-- **What is read is units** from their own bytes. -/
theorem Order.exists_of_decodeFrom (h : Order unit bytesOf)
    (hdecode : decodeFrom encoding unit place bytes = .ok t) :
    ∃ us : List Nat, (∀ u ∈ us, u < 0x10000) ∧ bytes = us.flatMap bytesOf ∧
      t = Json.joinSurrogates us := by
  fun_induction decodeFrom encoding unit place bytes generalizing t with
  | case1 =>
    cases hdecode
    exact ⟨[], by simp, rfl, rfl⟩
  | case2 => cases hdecode
  | case3 place a b c d bs high low hpair =>
    rename_i ih
    obtain ⟨t', ht', rfl⟩ := Except.exists_of_map_eq_ok hdecode
    obtain ⟨us, hus, hbytes, rfl⟩ := ih ht'
    refine ⟨high :: low :: us, ?_, ?_, ?_⟩
    · exact List.forall_mem_cons.mpr ⟨h.lt a b, List.forall_mem_cons.mpr ⟨h.lt c d, hus⟩⟩
    · rw [List.flatMap_cons, List.flatMap_cons, h.bytesOf_unit, h.bytesOf_unit, hbytes]
      rfl
    · rw [Json.joinSurrogates, if_pos (by simpa [and_assoc] using hpair)]
  | case4 place a b c d bs high low hpair =>
    rename_i ih
    obtain ⟨t', ht', rfl⟩ := Except.exists_of_map_eq_ok hdecode
    obtain ⟨us, hus, hbytes, rfl⟩ := ih ht'
    obtain ⟨us, rfl, -⟩ := h.exists_cons hus hbytes
    refine ⟨high :: low :: us, List.forall_mem_cons.mpr ⟨h.lt a b, hus⟩, ?_, ?_⟩
    · rw [List.flatMap_cons, h.bytesOf_unit, ← hbytes]
      rfl
    · rw [Json.joinSurrogates, if_neg (by simpa [and_assoc] using hpair)]
  | case5 place a b bs hshort ih =>
    obtain ⟨t', ht', rfl⟩ := Except.exists_of_map_eq_ok hdecode
    obtain ⟨us, hus, hbytes, rfl⟩ := ih ht'
    -- what is left is too short for a unit
    have hnil : us = [] := by
      cases us with
      | nil => rfl
      | cons u us =>
        obtain ⟨c, d, rfl⟩ := h.surjective u (hus u List.mem_cons_self)
        rw [List.flatMap_cons, h.bytesOf_unit] at hbytes
        exact absurd hbytes (hshort c d _)
    subst hnil
    refine ⟨[unit a b], List.forall_mem_singleton.mpr (h.lt a b), ?_, rfl⟩
    rw [List.flatMap_singleton, h.bytesOf_unit, hbytes]
    rfl

theorem Order.decodeFrom_eq_ok_iff (h : Order unit bytesOf) :
    decodeFrom encoding unit place bytes = .ok t ↔
      ∃ us : List Nat, (∀ u ∈ us, u < 0x10000) ∧ bytes = us.flatMap bytesOf ∧
        t = Json.joinSurrogates us := by
  refine ⟨h.exists_of_decodeFrom, ?_⟩
  rintro ⟨us, hus, rfl, rfl⟩
  exact h.decodeFrom_flatMap hus place

end Utf16

/-! ## Units of four bytes -/

namespace Utf32

/-- **An order of four bytes**: every code point is a number of four bytes, each of its own. -/
structure Order (unit : UInt8 → UInt8 → UInt8 → UInt8 → Nat) (bytesOf : Nat → List UInt8) :
    Prop where
  bytesOf_unit : ∀ a b c d, bytesOf (unit a b c d) = [a, b, c, d]
  surjective : ∀ n, n < 0x110000 → ∃ a b c d, unit a b c d = n

variable {encoding : Encoding} {unit : UInt8 → UInt8 → UInt8 → UInt8 → Nat}
  {bytesOf : Nat → List UInt8} {place : Nat} {bytes : List UInt8} {ns : List Nat} {t : Text}

/-- The bytes of units may stand in the other order. -/
theorem Order.reverse (h : Order unit bytesOf) :
    Order (fun a b c d => unit d c b a) fun n => (bytesOf n).reverse where
  bytesOf_unit a b c d := by
    rw [h.bytesOf_unit]
    rfl
  surjective n hn := by
    obtain ⟨a, b, c, d, hn⟩ := h.surjective n hn
    exact ⟨d, c, b, a, hn⟩

/-- **Code points are read back** from their bytes. -/
theorem Order.decodeFrom_flatMap (h : Order unit bytesOf) (hns : ∀ n ∈ ns, n < 0x110000)
    (place : Nat) :
    decodeFrom encoding unit place (ns.flatMap bytesOf) = .ok (ns.map charOfPoint) := by
  induction ns generalizing place with
  | nil => rfl
  | cons n ns ih =>
    obtain ⟨hn, htail⟩ := List.forall_mem_cons.mp hns
    obtain ⟨a, b, c, d, rfl⟩ := h.surjective n hn
    simp only [List.flatMap_cons, h.bytesOf_unit, List.cons_append, List.nil_append]
    rw [decodeFrom, if_pos hn, ih htail]
    rfl

/-- **What is read is code points** from their own bytes. -/
theorem Order.exists_of_decodeFrom (h : Order unit bytesOf)
    (hdecode : decodeFrom encoding unit place bytes = .ok t) :
    ∃ ns : List Nat, (∀ n ∈ ns, n < 0x110000) ∧ bytes = ns.flatMap bytesOf ∧
      t = ns.map charOfPoint := by
  fun_induction decodeFrom encoding unit place bytes generalizing t with
  | case1 =>
    cases hdecode
    exact ⟨[], by simp, rfl, rfl⟩
  | case2 place a b c d bs n hn =>
    rename_i ih
    obtain ⟨t', ht', rfl⟩ := Except.exists_of_map_eq_ok hdecode
    obtain ⟨ns, hns, hbytes, rfl⟩ := ih ht'
    refine ⟨n :: ns, List.forall_mem_cons.mpr ⟨hn, hns⟩, ?_, rfl⟩
    rw [List.flatMap_cons, h.bytesOf_unit, hbytes]
    rfl
  | case3 => cases hdecode
  | case4 => cases hdecode

theorem Order.decodeFrom_eq_ok_iff (h : Order unit bytesOf) :
    decodeFrom encoding unit place bytes = .ok t ↔
      ∃ ns : List Nat, (∀ n ∈ ns, n < 0x110000) ∧ bytes = ns.flatMap bytesOf ∧
        t = ns.map charOfPoint := by
  refine ⟨h.exists_of_decodeFrom, ?_⟩
  rintro ⟨ns, hns, rfl, rfl⟩
  exact h.decodeFrom_flatMap hns place

end Utf32

/-! ## The formats -/

namespace Encoding

/-- **The bytes of a unit.** -/
def unitBytes : Encoding → Nat → List UInt8
  | .utf8, n => Utf8.pointBytes n
  | .utf16le, u => [u.toUInt8, (u / 0x100).toUInt8]
  | .utf16be, u => [(u / 0x100).toUInt8, u.toUInt8]
  | .utf32le, n =>
    [n.toUInt8, (n / 0x100).toUInt8, (n / 0x10000).toUInt8, (n / 0x1000000).toUInt8]
  | .utf32be, n =>
    [(n / 0x1000000).toUInt8, (n / 0x10000).toUInt8, (n / 0x100).toUInt8, n.toUInt8]

/-- The bound of the units of a format. -/
def bound : Encoding → Nat
  | .utf16le | .utf16be => 0x10000
  | .utf8 | .utf32le | .utf32be => 0x110000

/-- **The text of units**: in the formats of two bytes the halves of a pair are one character. -/
def textOf : Encoding → List Nat → Text
  | .utf16le | .utf16be => Json.joinSurrogates
  | .utf8 | .utf32le | .utf32be => List.map charOfPoint

/-- **The bytes of a text** in a format. -/
def Encodes (e : Encoding) (t : Text) (bytes : List UInt8) : Prop :=
  ∃ ns : List Nat, (∀ n ∈ ns, n < e.bound) ∧ bytes = ns.flatMap e.unitBytes ∧ t = e.textOf ns

/-- A number is kept as a byte by its remainder. -/
theorem toUInt8_eq {b : UInt8} {k : Nat} (h : k % 256 = b.toNat) : k.toUInt8 = b := by
  rw [← UInt8.toNat_inj, ← h]
  exact UInt8.toNat_ofNat'

theorem order_utf16le :
    Utf16.Order (fun a b => a.toNat + 256 * b.toNat) (unitBytes .utf16le) where
  lt a b := by
    have ha := a.toNat_lt
    have hb := b.toNat_lt
    omega
  bytesOf_unit a b := by
    have ha := a.toNat_lt
    have hb := b.toNat_lt
    rw [unitBytes, toUInt8_eq (b := a) (by omega), toUInt8_eq (b := b) (by omega)]
  surjective u hu := by
    refine ⟨(u % 256).toUInt8, (u / 256).toUInt8, ?_⟩
    rw [Utf8.toNat_toUInt8 (by omega), Utf8.toNat_toUInt8 (by omega)]
    omega

theorem order_utf16be :
    Utf16.Order (fun a b => 256 * a.toNat + b.toNat) (unitBytes .utf16be) := by
  have hunit : (fun a b : UInt8 => 256 * a.toNat + b.toNat) = fun a b => b.toNat + 256 * a.toNat :=
    funext fun a => funext fun b => Nat.add_comm _ _
  rw [hunit]
  exact order_utf16le.reverse

theorem order_utf32le :
    Utf32.Order (fun a b c d => a.toNat + 256 * (b.toNat + 256 * (c.toNat + 256 * d.toNat)))
      (unitBytes .utf32le) where
  bytesOf_unit a b c d := by
    have ha := a.toNat_lt
    have hb := b.toNat_lt
    have hc := c.toNat_lt
    have hd := d.toNat_lt
    rw [unitBytes, toUInt8_eq (b := a) (by omega), toUInt8_eq (b := b) (by omega),
      toUInt8_eq (b := c) (by omega), toUInt8_eq (b := d) (by omega)]
  surjective n hn := by
    refine ⟨(n % 256).toUInt8, (n / 256 % 256).toUInt8, (n / 65536).toUInt8, 0, ?_⟩
    rw [Utf8.toNat_toUInt8 (by omega), Utf8.toNat_toUInt8 (by omega),
      Utf8.toNat_toUInt8 (by omega), UInt8.toNat_zero]
    omega

theorem order_utf32be :
    Utf32.Order (fun a b c d => d.toNat + 256 * (c.toNat + 256 * (b.toNat + 256 * a.toNat)))
      (unitBytes .utf32be) :=
  order_utf32le.reverse

/-- **The bytes that are read** in a format are those of the text that is read. -/
theorem decodeAt_eq_ok_iff {e : Encoding} {place : Nat} {bytes : List UInt8} {t : Text} :
    e.decodeAt place bytes = .ok t ↔ e.Encodes t bytes := by
  cases e with
  | utf8 =>
    have hpasses : ∀ n, Utf8.Passes true n ↔ n < 0x110000 :=
      fun n => and_iff_left (Or.inl rfl)
    rw [decodeAt, Utf8.decodeFrom_eq_ok_iff]
    simp only [hpasses]
    rfl
  | utf16le => exact order_utf16le.decodeFrom_eq_ok_iff
  | utf16be => exact order_utf16be.decodeFrom_eq_ok_iff
  | utf32le => exact order_utf32le.decodeFrom_eq_ok_iff
  | utf32be => exact order_utf32be.decodeFrom_eq_ok_iff

end Encoding

end Roleplay
