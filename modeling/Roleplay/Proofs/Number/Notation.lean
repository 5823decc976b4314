import Roleplay.Json.Reader
import Roleplay.Proofs.Number.Digits

/-!
# The notation of numbers

A number is written as a whole part, a fraction and an exponent, and the last two may be missing.
The three parts tell where they end: behind digits stands no digit, and what stands behind the whole
number is no point and no exponent. So a number is read part by part, up to where it ends, and what
is read has these parts.

## Main definitions

* `Text.EndsNumeral`: what may follow a number
* `Numeral.IsWhole`, `Numeral.IsFraction`, `Numeral.IsExponent`: the parts, with what they stand for
* `Json.SpellsNumber`: the texts of numbers

## Main results

* `Numeral.float?_eq`: the number of a sign and three parts
* `Json.number_eq`: a number is read part by part
* `Json.SpellsNumber.number_append`, `Json.exists_of_number`: what is read is a number
* `Json.exists_digits_of_number`: a number that is refused for its length begins with its digits
-/

namespace Roleplay

/-- **What may follow a numeral**: no digit, no point and no exponent. -/
def Text.EndsNumeral (r : Text) : Prop :=
  ∀ c, r.head? = some c → c.isDigit = false ∧ c ≠ '.' ∧ c ≠ 'e' ∧ c ≠ 'E'

theorem Text.endsNumeral_nil : Text.EndsNumeral [] := by
  intro c hc
  cases hc

/-- A character is no digit where it has to be another. -/
theorem Text.ne_of_isDigit {c d : Char} (hc : c.isDigit = true) (hd : d.isDigit = false) :
    c ≠ d := by
  rintro rfl
  rw [hc] at hd
  cases hd

/-- **Digits are taken as far as they go.** -/
theorem Text.AllDigits.takeWhile_append {s r : Text} (hs : s.AllDigits)
    (hr : ∀ c, r.head? = some c → c.isDigit = false) :
    (s ++ r).takeWhile Char.isDigit = s := by
  rw [List.takeWhile_append_of_pos hs]
  cases r with
  | nil => exact List.append_nil s
  | cons c r => rw [List.takeWhile_cons_of_neg (by simp [hr c rfl]), List.append_nil]

theorem Text.allDigits_takeWhile (t : Text) : Text.AllDigits (t.takeWhile Char.isDigit) :=
  fun _ hc => List.all_eq_true.mp List.all_takeWhile _ hc

namespace Numeral

/-! ## The parts of a number -/

/-- **The whole part**: digits, with a zero in front only by itself. -/
structure IsWhole (t : Text) : Prop where
  digits : t.AllDigits
  front : t = ['0'] ∨ ∃ c s, t = c :: s ∧ c ≠ '0'

/-- **The fraction** and its digits: a point with digits behind it, or nothing. -/
inductive IsFraction : Text → Text → Prop
  | missing : IsFraction [] []
  | point {ds : Text} (hds : ds.AllDigits) (hne : ds ≠ []) : IsFraction ('.' :: ds) ds

/-- **The exponent** and its value: a letter with digits behind it, under a sign or without one, or
nothing. -/
inductive IsExponent : Text → Int → Prop
  | missing : IsExponent [] 0
  | unsigned {e : Char} {ds : Text} (he : e = 'e' ∨ e = 'E') (hds : ds.AllDigits) (hne : ds ≠ []) :
    IsExponent (e :: ds) (signed false (valueOf ds))
  | signed {e : Char} {ds : Text} (negative : Bool) (he : e = 'e' ∨ e = 'E') (hds : ds.AllDigits)
    (hne : ds ≠ []) :
    IsExponent (e :: (if negative then '-' else '+') :: ds) (signed negative (valueOf ds))

variable {whole f ds x r : Text} {k : Int}

theorem IsWhole.exists_cons (h : IsWhole whole) : ∃ c s, whole = c :: s ∧ c.isDigit = true := by
  rcases h.front with rfl | ⟨c, s, rfl, -⟩
  · exact ⟨'0', [], rfl, rfl⟩
  · exact ⟨c, s, rfl, h.digits c List.mem_cons_self⟩

/-- The exponent begins with no digit and with no point, and neither does what may follow. -/
theorem IsExponent.head? (h : IsExponent x k) (hr : r.EndsNumeral) {c : Char}
    (hc : (x ++ r).head? = some c) : c.isDigit = false ∧ c ≠ '.' := by
  cases h with
  | missing => exact ⟨(hr c hc).1, (hr c hc).2.1⟩
  | unsigned he =>
    cases hc
    rcases he with rfl | rfl <;> exact ⟨rfl, by decide⟩
  | signed _ he =>
    cases hc
    rcases he with rfl | rfl <;> exact ⟨rfl, by decide⟩

theorem IsFraction.head? (h : IsFraction f ds) (hx : IsExponent x k) (hr : r.EndsNumeral) {c : Char}
    (hc : (f ++ (x ++ r)).head? = some c) : c.isDigit = false := by
  cases h with
  | missing => exact (hx.head? hr hc).1
  | point =>
    cases hc
    rfl

theorem mapM_asciiDigit? (h : ds.AllDigits) :
    ds.mapM asciiDigit? = some (ds.filterMap asciiDigit?) := by
  induction ds with
  | nil => rfl
  | cons c ds ih =>
    obtain ⟨hc, hds⟩ := Text.allDigits_cons.mp h
    have hdigit : asciiDigit? c = some (c.toNat - '0'.toNat) := if_pos hc
    rw [List.mapM_cons, hdigit, ih hds, List.filterMap_cons_some hdigit]
    rfl

/-- A digit is no sign. -/
theorem sign_of_isDigit {c : Char} (hc : c.isDigit = true) (t : Text) :
    sign (c :: t) = (false, c :: t) := by
  rw [sign]
  · intro _ heq
    cases heq
    cases hc
  · intro _ heq
    cases heq
    cases hc

/-- The exponent is read as a whole number. -/
theorem IsExponent.exponent?_eq (h : IsExponent x k) : exponent? x = some k := by
  cases h with
  | missing => rfl
  | unsigned he hds hne =>
    obtain ⟨c, ds, rfl⟩ := List.exists_cons_of_ne_nil hne
    have hsign := sign_of_isDigit (hds c List.mem_cons_self) ds
    simp [exponent?, he, hsign, mapM_asciiDigit? hds, valueOf]
  | signed negative he hds hne =>
    have hnonempty : List.isEmpty _ = false := List.isEmpty_eq_false_iff.mpr hne
    cases negative with
    | false => simp [exponent?, sign, he, hnonempty, mapM_asciiDigit? hds, valueOf]
    | true => simp [exponent?, sign, he, hnonempty, mapM_asciiDigit? hds, valueOf]

/-- **A number without a sign** is read part by part. -/
theorem unsignedFloat?_eq (hwhole : IsWhole whole) (hf : IsFraction f ds) (hx : IsExponent x k)
    (negative : Bool) :
    unsignedFloat? negative (whole ++ (f ++ x)) =
      some (.ofDecimal negative (valueOf (whole ++ ds)) (k - ds.length)) := by
  have htake : (whole ++ (f ++ x)).takeWhile Char.isDigit = whole := by
    apply hwhole.digits.takeWhile_append
    intro c hc
    exact hf.head? hx Text.endsNumeral_nil (by rwa [List.append_nil])
  have hnonempty : whole.isEmpty = false := by
    obtain ⟨c, s, rfl, -⟩ := hwhole.exists_cons
    rfl
  have hexponent := hx.exponent?_eq
  simp only [unsignedFloat?, htake, List.drop_left]
  cases hf with
  | missing =>
    -- without a point the exponent follows the digits
    rw [List.nil_append]
    split
    · exact absurd rfl (hx.head? (r := []) Text.endsNumeral_nil rfl).2
    · simp only [hnonempty, Bool.false_and, Bool.false_eq_true, if_false, hexponent,
        Option.map_some, List.length_nil]
      rfl
  | point hds hne =>
    have hfraction : (ds ++ x).takeWhile Char.isDigit = ds := by
      apply hds.takeWhile_append
      intro c hc
      exact (hx.head? Text.endsNumeral_nil (by rwa [List.append_nil])).1
    rw [List.cons_append]
    simp only [hfraction, List.drop_left, hnonempty, Bool.false_and, Bool.false_eq_true, if_false,
      hexponent, Option.map_some]
    rfl

/-- **A number with its sign** is read part by part. -/
theorem float?_eq (hwhole : IsWhole whole) (hf : IsFraction f ds) (hx : IsExponent x k)
    (negative : Bool) :
    float? ((if negative then ['-'] else []) ++ (whole ++ (f ++ x))) =
      some (.ofDecimal negative (valueOf (whole ++ ds)) (k - ds.length)) := by
  have hfloat := unsignedFloat?_eq hwhole hf hx negative
  obtain ⟨c, s, rfl, hc⟩ := hwhole.exists_cons
  have hsign : sign ((if negative then ['-'] else []) ++ (c :: s ++ (f ++ x))) =
      (negative, c :: s ++ (f ++ x)) := by
    cases negative with
    | true => rfl
    | false => exact sign_of_isDigit hc _
  -- a number is no name, for it begins with a digit
  have hname : ∀ d : Char, ∀ name : Text, d.isDigit = false →
      (c :: s ++ (f ++ x)).map Char.toLower ≠ d :: name := by
    intro d name hd heq
    rw [List.cons_append, List.map_cons] at heq
    have hlower : c.toLower = c := by
      apply dif_neg
      intro hupper
      rw [Char.isDigit] at hc
      simp only [Bool.and_eq_true, decide_eq_true_eq, ge_iff_le, UInt32.le_iff_toNat_le]
        at hc hupper
      have h₁ : ('A'.val).toNat = 65 := rfl
      have h₂ : ('9'.val).toNat = 57 := rfl
      omega
    have hcd : c = d := by
      rw [← hlower]
      exact (List.cons.inj heq).1
    rw [hcd, hd] at hc
    cases hc
  have hnan : (c :: s ++ (f ++ x)).map Char.toLower ≠ "nan".toList := hname 'n' ['a', 'n'] rfl
  rw [float?, hsign]
  dsimp only
  rw [if_neg, if_neg hnan, hfloat]
  rintro (heq | heq)
  · exact hname 'i' _ rfl heq
  · exact hname 'i' _ rfl heq

end Numeral

/-! ## Numbers in documents -/

namespace Json

open Numeral (IsWhole IsFraction IsExponent)

variable {whole f ds x r : Text} {k : Int}

theorem leadingWhole_append (h : IsWhole whole) (hr : ∀ c, r.head? = some c → c.isDigit = false) :
    leadingWhole (whole ++ r) = whole := by
  rcases h.front with rfl | ⟨c, s, rfl, hc⟩
  · rfl
  · have hdigits := h.digits.takeWhile_append hr
    rw [List.cons_append] at hdigits ⊢
    rw [leadingWhole]
    · exact hdigits
    · intro _ heq
      cases heq
      exact hc rfl

theorem leadingFraction_append (hf : IsFraction f ds) (hx : IsExponent x k) (hr : r.EndsNumeral) :
    leadingFraction (f ++ (x ++ r)) = f := by
  cases hf with
  | missing =>
    rw [List.nil_append, leadingFraction]
    intro _ heq
    exact (hx.head? hr (congrArg List.head? heq)).2 rfl
  | point hds hne =>
    have hdigits : leadingDigits (ds ++ (x ++ r)) = ds := by
      apply hds.takeWhile_append
      intro c hc
      exact (hx.head? hr hc).1
    rw [List.cons_append, leadingFraction, hdigits, if_neg]
    simpa using hne

theorem leadingExponent_append (hx : IsExponent x k) (hr : r.EndsNumeral) :
    leadingExponent (x ++ r) = x := by
  cases hx with
  | missing =>
    cases r with
    | nil => rfl
    | cons c r =>
      have hc : ¬(c = 'e' ∨ c = 'E') := not_or.mpr (hr c rfl).2.2
      exact if_neg hc
  | @unsigned e ds he hds hne =>
    have hdigits : leadingDigits (ds ++ r) = ds :=
      hds.takeWhile_append fun c hc => (hr c hc).1
    obtain ⟨c, ds, rfl⟩ := List.exists_cons_of_ne_nil hne
    have hc := hds c List.mem_cons_self
    rw [List.cons_append] at hdigits ⊢
    rw [List.cons_append, leadingExponent, if_pos he]
    · rw [hdigits]
      rfl
    -- the first digit is no sign
    all_goals
      intro _ heq
      cases heq
      cases hc
  | @signed e ds negative he hds hne =>
    have hdigits : leadingDigits (ds ++ r) = ds :=
      hds.takeWhile_append fun c hc => (hr c hc).1
    have hnonempty : ds.isEmpty = false := by simpa using hne
    cases negative with
    | false => simp [leadingExponent, he, hdigits, hnonempty]
    | true => simp [leadingExponent, he, hdigits, hnonempty]

/-- **A number is read part by part**, up to where it ends. -/
theorem number_eq (hwhole : IsWhole whole) (hf : IsFraction f ds) (hx : IsExponent x k)
    (negative : Bool) (hr : r.EndsNumeral) :
    number ((if negative then ['-'] else []) ++ (whole ++ (f ++ (x ++ r)))) =
      if f.isEmpty && x.isEmpty then
        if Numeral.maxDigits < whole.length then
          .error (.tooManyDigits whole.length,
            (if negative then ['-'] else []) ++ (whole ++ (f ++ (x ++ r))))
        else .ok (.int (Numeral.signed negative (Numeral.valueOf whole)), r)
      else
        .ok (.float (.ofDecimal negative (Numeral.valueOf (whole ++ ds)) (k - ds.length)), r) := by
  obtain ⟨c, s, hcs, hc⟩ := hwhole.exists_cons
  have hleading : leadingWhole (whole ++ (f ++ (x ++ r))) = whole :=
    leadingWhole_append hwhole fun c hc => hf.head? hx hr hc
  have hdrop₁ : (whole ++ (f ++ (x ++ r))).drop whole.length = f ++ (x ++ r) := List.drop_left
  have hdrop₂ : (whole ++ (f ++ (x ++ r))).drop (whole.length + f.length) = x ++ r := by
    rw [← List.drop_drop, hdrop₁, List.drop_left]
  have hdrop₃ : (whole ++ (f ++ (x ++ r))).drop (whole.length + f.length + x.length) = r := by
    rw [← List.drop_drop, hdrop₂, List.drop_left]
  have hnonempty : whole.isEmpty = false := by
    rw [hcs]
    rfl
  have hfloat := Numeral.float?_eq hwhole hf hx negative
  cases negative with
  | true =>
    simp only [if_true] at hfloat
    show number ('-' :: (whole ++ (f ++ (x ++ r)))) = _
    rw [number]
    simp only [hleading, hdrop₁, leadingFraction_append hf hx hr, hdrop₂,
      leadingExponent_append hx hr, hdrop₃, hnonempty, List.append_assoc, hfloat,
      Bool.false_eq_true, if_false]
    rfl
  | false =>
    simp only [Bool.false_eq_true, if_false, List.nil_append] at hfloat
    show number (whole ++ (f ++ (x ++ r))) = _
    rw [number]
    · simp only [hleading, hdrop₁, leadingFraction_append hf hx hr, hdrop₂,
        leadingExponent_append hx hr, hdrop₃, hnonempty, List.nil_append, List.append_assoc,
        hfloat, Bool.false_eq_true, if_false]
      rfl
    · -- a digit is no sign
      intro t' heq
      rw [hcs] at heq
      cases heq
      cases hc

/-! ## What a text begins with -/

theorem leadingDigits_append_dropWhile (t : Text) :
    leadingDigits t ++ t.dropWhile Char.isDigit = t :=
  List.takeWhile_append_dropWhile

theorem exists_of_leadingWhole (t : Text) :
    ∃ r, t = leadingWhole t ++ r ∧ (leadingWhole t = [] ∨ IsWhole (leadingWhole t)) := by
  have hdigits := Text.allDigits_takeWhile t
  rw [leadingWhole.eq_def]
  split
  · exact ⟨_, rfl, Or.inr ⟨Text.allDigits_replicate 1, Or.inl rfl⟩⟩
  · next hzero =>
    have happend := leadingDigits_append_dropWhile t
    refine ⟨_, happend.symm, ?_⟩
    rw [leadingDigits] at happend ⊢
    cases htake : t.takeWhile Char.isDigit with
    | nil => exact Or.inl rfl
    | cons c s =>
      rw [htake] at hdigits happend
      -- the digits begin as the text does
      refine Or.inr ⟨hdigits, Or.inr ⟨c, s, rfl, ?_⟩⟩
      rintro rfl
      exact hzero _ happend.symm

theorem exists_of_leadingFraction (t : Text) :
    ∃ r ds, t = leadingFraction t ++ r ∧ IsFraction (leadingFraction t) ds := by
  rw [leadingFraction.eq_def]
  split
  · next t' =>
    split
    · exact ⟨_, [], rfl, .missing⟩
    · next hne =>
      refine ⟨t'.dropWhile Char.isDigit, leadingDigits t', ?_,
        .point (Text.allDigits_takeWhile t') (by simpa using hne)⟩
      rw [List.cons_append, leadingDigits_append_dropWhile]
  · exact ⟨_, [], rfl, .missing⟩

theorem exists_of_leadingExponent (t : Text) :
    ∃ r k, t = leadingExponent t ++ r ∧ IsExponent (leadingExponent t) k := by
  rw [leadingExponent.eq_def]
  split
  · next e t' =>
    split
    · next he =>
      -- with a plus, with a minus and without a sign
      split
      next mark ds hmark =>
      split
      · exact ⟨_, 0, rfl, .missing⟩
      · next hne =>
        have hne : ds ≠ [] := by simpa using hne
        split at hmark
        all_goals cases hmark
        · exact ⟨_, _, congrArg (e :: '+' :: ·) (leadingDigits_append_dropWhile _).symm,
            .signed false he (Text.allDigits_takeWhile _) hne⟩
        · exact ⟨_, _, congrArg (e :: '-' :: ·) (leadingDigits_append_dropWhile _).symm,
            .signed true he (Text.allDigits_takeWhile _) hne⟩
        · exact ⟨_, _, congrArg (e :: ·) (leadingDigits_append_dropWhile _).symm,
            .unsigned he (Text.allDigits_takeWhile _) hne⟩
    · exact ⟨_, 0, rfl, .missing⟩
  · exact ⟨_, 0, rfl, .missing⟩

/-! ## The texts of numbers -/

/-- **The texts of numbers**: a whole number has a length that fits, and every other number a
fraction or an exponent. -/
inductive SpellsNumber (fits : Nat → Prop) : Text → Json → Prop
  | int {whole : Text} (negative : Bool) (hwhole : IsWhole whole) (hfits : fits whole.length) :
    SpellsNumber fits ((if negative then ['-'] else []) ++ whole)
      (.int (Numeral.signed negative (Numeral.valueOf whole)))
  | float {whole f ds x : Text} {k : Int} (negative : Bool) (hwhole : IsWhole whole)
    (hf : IsFraction f ds) (hx : IsExponent x k) (hpart : ¬(f = [] ∧ x = [])) :
    SpellsNumber fits ((if negative then ['-'] else []) ++ (whole ++ (f ++ x)))
      (.float (.ofDecimal negative (Numeral.valueOf (whole ++ ds)) (k - ds.length)))

variable {fits : Nat → Prop} {t : Text} {v : Json}

/-- A number begins with a digit, behind a sign or without one. -/
theorem SpellsNumber.exists_cons (h : SpellsNumber fits t v) :
    ∃ (negative : Bool) (c : Char) (s : Text),
      t = (if negative then ['-'] else []) ++ c :: s ∧ c.isDigit = true := by
  cases h with
  | int negative hwhole =>
    obtain ⟨c, s, rfl, hc⟩ := hwhole.exists_cons
    exact ⟨negative, c, s, rfl, hc⟩
  | float negative hwhole =>
    obtain ⟨c, s, rfl, hc⟩ := hwhole.exists_cons
    exact ⟨negative, c, _, rfl, hc⟩

/-- **A number of a length that fits is read**, up to where it ends. -/
theorem SpellsNumber.number_append (h : SpellsNumber (· ≤ Numeral.maxDigits) t v)
    (hr : r.EndsNumeral) : number (t ++ r) = .ok (v, r) := by
  cases h with
  | int negative hwhole hfits =>
    have hnumber := number_eq hwhole .missing .missing negative hr
    simp only [List.isEmpty_nil, Bool.and_self, if_true, if_neg (Nat.not_lt.mpr hfits)] at hnumber
    rw [List.append_assoc]
    exact hnumber
  | @float whole f ds x k negative hwhole hf hx hpart =>
    have hempty : ¬(f.isEmpty && x.isEmpty) = true := by simpa using hpart
    have hnumber := number_eq hwhole hf hx negative hr
    rw [if_neg hempty] at hnumber
    simp only [List.append_assoc]
    exact hnumber

/-- **A text has parts**, some of them empty, as they are read off its front. -/
theorem exists_parts (body : Text) :
    ∃ (whole f ds x r : Text) (k : Int),
      body = whole ++ (f ++ (x ++ r)) ∧ (whole = [] ∨ IsWhole whole) ∧ IsFraction f ds ∧
      IsExponent x k ∧ leadingWhole body = whole ∧ leadingFraction (f ++ (x ++ r)) = f ∧
      leadingExponent (x ++ r) = x := by
  obtain ⟨r₁, hbody, hwhole⟩ := exists_of_leadingWhole body
  obtain ⟨r₂, ds, hfraction, hf⟩ := exists_of_leadingFraction r₁
  obtain ⟨r₃, k, hexponent, hx⟩ := exists_of_leadingExponent r₂
  refine ⟨leadingWhole body, leadingFraction r₁, ds, leadingExponent r₂, r₃, k, ?_, hwhole, hf, hx,
    rfl, ?_, ?_⟩
  · rw [← hexponent, ← hfraction, ← hbody]
  · rw [← hexponent, ← hfraction]
  · rw [← hexponent]

/-- **What a text is read as**: the number that its parts spell, unless the whole part is missing or
too long. -/
theorem exists_number_eq (start : Text) :
    ∃ (negative : Bool) (whole f ds x r : Text) (k : Int),
      start = (if negative then ['-'] else []) ++ (whole ++ (f ++ (x ++ r))) ∧
      (whole = [] ∨ IsWhole whole) ∧ IsFraction f ds ∧ IsExponent x k ∧
      number start =
        if whole.isEmpty then .error (.valueExpected, start)
        else if f.isEmpty && x.isEmpty then
          if Numeral.maxDigits < whole.length then .error (.tooManyDigits whole.length, start)
          else .ok (.int (Numeral.signed negative (Numeral.valueOf whole)), r)
        else .ok
          (.float (.ofDecimal negative (Numeral.valueOf (whole ++ ds)) (k - ds.length)), r) := by
  rw [number.eq_def]
  -- with a sign and without one
  split
  next mark body hmark =>
  obtain ⟨whole, f, ds, x, r, k, hbody, hwhole, hf, hx, hleading, hfraction, hexponent⟩ :=
    exists_parts body
  have hdrop₁ : body.drop whole.length = f ++ (x ++ r) := by
    rw [hbody, List.drop_left]
  have hdrop₂ : body.drop (whole.length + f.length) = x ++ r := by
    rw [← List.drop_drop, hdrop₁, List.drop_left]
  have hdrop₃ : body.drop (whole.length + f.length + x.length) = r := by
    rw [← List.drop_drop, hdrop₂, List.drop_left]
  obtain ⟨negative, rfl, rfl⟩ : ∃ negative : Bool,
      mark = (if negative then ['-'] else []) ∧ start = mark ++ body := by
    split at hmark
    · cases hmark
      exact ⟨true, rfl, rfl⟩
    · cases hmark
      exact ⟨false, rfl, rfl⟩
  refine ⟨negative, whole, f, ds, x, r, k, by rw [hbody], hwhole, hf, hx, ?_⟩
  simp only [hleading, hdrop₁, hfraction, hdrop₂, hexponent, hdrop₃]
  rcases hwhole with rfl | hwhole
  · rfl
  · have hfloat := Numeral.float?_eq hwhole hf hx negative
    simp only [List.append_assoc, hfloat]
    cases negative <;> rfl

/-- **What is read is a number** of a length that fits. -/
theorem exists_of_number {start : Text} (h : number start = .ok (v, r)) :
    ∃ t, start = t ++ r ∧ SpellsNumber (· ≤ Numeral.maxDigits) t v := by
  obtain ⟨negative, whole, f, ds, x, r', k, hstart, hwhole, hf, hx, hnumber⟩ :=
    exists_number_eq start
  rw [hnumber] at h
  rcases hwhole with rfl | hwhole
  · cases h
  · have hnonempty : whole.isEmpty = false := by
      obtain ⟨c, s, rfl, -⟩ := hwhole.exists_cons
      rfl
    rw [hnonempty, if_neg Bool.false_ne_true] at h
    split at h
    · next hempty =>
      rw [Bool.and_eq_true, List.isEmpty_iff, List.isEmpty_iff] at hempty
      obtain ⟨rfl, rfl⟩ := hempty
      split at h
      · cases h
      · next hlength =>
        cases h
        refine ⟨_, ?_, .int negative hwhole (Nat.not_lt.mp hlength)⟩
        rw [hstart, List.append_assoc]
        rfl
    · next hpart =>
      cases h
      refine ⟨_, ?_, .float negative hwhole hf hx ?_⟩
      · rw [hstart]
        simp only [List.append_assoc]
      · simpa using hpart

/-- **A number that is refused for its length** begins with as many digits. -/
theorem exists_digits_of_number {start s : Text} {n : Nat}
    (h : number start = .error (.tooManyDigits n, s)) :
    s = start ∧ ∃ (negative : Bool) (whole r : Text),
      start = (if negative then ['-'] else []) ++ (whole ++ r) ∧ whole.AllDigits ∧
      whole.length = n ∧ Numeral.maxDigits < n := by
  obtain ⟨negative, whole, f, ds, x, r', k, hstart, hwhole, hf, hx, hnumber⟩ :=
    exists_number_eq start
  rw [hnumber] at h
  rcases hwhole with rfl | hwhole
  · cases h
  · split at h
    · cases h
    · split at h
      · split at h
        · next hlength =>
          cases h
          exact ⟨rfl, negative, whole, _, hstart, hwhole.digits, rfl, hlength⟩
        · cases h
      · cases h

end Json

end Roleplay
