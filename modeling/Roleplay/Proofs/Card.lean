import Roleplay.Card
import Roleplay.Proofs.Json.Bytes
import Roleplay.Proofs.Json.Written

/-!
# What is a card

A card may come as nothing, as a text or as bytes. It is read from an empty payload, and otherwise
exactly from the documents of objects, whatever their members hold: each of the eight texts is made
of one member, and every value has a text. An object under `data` stands for the whole, so a card in
an envelope is the card itself.

All else is a broken card and is reported as one, with two exceptions: bytes that are no text in the
format that they tell, and a whole number with more digits than a numeral may have.

## Main definitions

* `Members.unwrapped`: the members of a card
* `Card.fields`: the eight texts, with the names of their members
* `Card.TextOf`: the text of a value
* `Card.Payload`, `Card.Payload.card`: what a card is read from, and the card
* `Card.Payload.Carries`: the texts that a payload carries
* `Card.Payload.Escapes`: the faults that are not of the card, with their causes

## Main results

* `Card.textOf_fieldText`: every value has the text that it should have
* `Card.Payload.card_eq_ok_iff`: the payloads from which a card is read
* `Card.card_or_broken`: what is no card is reported as broken
* `Card.card_escapes`: not every fault is one of the card
* `Card.envelope_transparent`: a card in an envelope is the card itself
* `Card.envelope_escapes`: but not with a numeral that is too long
-/

namespace Roleplay

/-- **The members of a card**: those of the object under `data`, or where there is none all. -/
def Members.unwrapped (ms : Members) : Members :=
  match ms.get "data" with
  | .obj inner => inner
  | _ => ms

namespace Card

/-! ## Objects -/

/-- An object is a card, whatever its members. -/
theorem ofJson_obj (ms : Members) : ofJson (.obj ms) = .ok (ofMembers ms.unwrapped) := by
  rw [ofJson, Members.unwrapped]
  split <;> simp_all

theorem ofJson_eq_ok_iff {v : Json} {c : Card} :
    ofJson v = .ok c ↔ ∃ ms : Members, v = .obj ms ∧ c = ofMembers ms.unwrapped := by
  constructor
  · intro h
    cases v with
    | obj ms =>
      rw [ofJson_obj] at h
      cases h
      exact ⟨ms, rfl, rfl⟩
    | _ => cases h
  · rintro ⟨ms, rfl, rfl⟩
    exact ofJson_obj ms

/-! ## Broken cards -/

/-- What is no object is a broken card. -/
theorem isOfCard_of_ofJson {v : Json} {fault : Fault} (h : ofJson v = .error fault) :
    fault.isOfCard = true := by
  cases v with
  | obj ms =>
    rw [ofJson_obj] at h
    cases h
  | _ =>
    cases h
    rfl

/-- What is no document is a broken card, unless a numeral in it is too long. -/
theorem malformed_or_tooManyDigits (f : Json.ReadFault) :
    (Fault.malformed f).isOfCard = true ∨ ∃ n before, f = ⟨.tooManyDigits n, before⟩ := by
  obtain ⟨reason, before⟩ := f
  cases reason with
  | tooManyDigits n => exact Or.inr ⟨n, before, rfl⟩
  | _ => exact Or.inl rfl

theorem isOfCard_or_tooManyDigits {t : Text} {fault : Fault} (h : read t = .error fault) :
    fault.isOfCard = true ∨ ∃ n before, Json.read t = .error ⟨.tooManyDigits n, before⟩ ∧
      fault = .malformed ⟨.tooManyDigits n, before⟩ := by
  rw [read] at h
  split at h
  · cases h
  · cases hread : Json.read t with
    | error f =>
      rw [hread] at h
      cases h
      rcases malformed_or_tooManyDigits f with hofCard | ⟨n, before, rfl⟩
      · exact Or.inl hofCard
      · exact Or.inr ⟨n, before, rfl, rfl⟩
    | ok v =>
      rw [hread] at h
      exact Or.inl (isOfCard_of_ofJson h)

/-- **A card that cannot be read** is a broken one, or has a numeral that is too long. -/
theorem isOfCard_of_read {t : Text} {fault : Fault} (h : read t = .error fault) :
    fault.isOfCard = true ∨ ∃ n before, fault = .malformed ⟨.tooManyDigits n, before⟩ :=
  (isOfCard_or_tooManyDigits h).imp_right fun ⟨n, before, _, hfault⟩ => ⟨n, before, hfault⟩

/-! ## The texts of values -/

/-- **The text of a value that holds no others**: nothing for null, a string as it is, and a
document that is read as the value for all else. -/
inductive TextOfScalar : Json → Text → Prop
  | null : TextOfScalar .null []
  | str (s : Text) : TextOfScalar (.str s) s
  | bool {b : Bool} (h : Json.read (Json.write .ascii (.bool b)) = .ok (.bool b)) :
    TextOfScalar (.bool b) (Json.write .ascii (.bool b))
  | int {i : Int} (h : Json.read (Json.write .ascii (.int i)) = .ok (.int i)) :
    TextOfScalar (.int i) (Json.write .ascii (.int i))
  | float {x : Binary64} (h : Json.read (Json.write .ascii (.float x)) = .ok (.float x)) :
    TextOfScalar (.float x) (Json.write .ascii (.float x))

/-- **The text of a value**: a list of values that hold no others has their texts after one another,
and what holds deeper ones has a document that is read as the value. -/
inductive TextOf : Json → Text → Prop
  | scalar {v : Json} {t : Text} (h : TextOfScalar v t) : TextOf v t
  | flat {xs : List Json} {ts : List Text} (h : List.Forall₂ TextOfScalar xs ts) :
    TextOf (.arr xs) (Text.join [',', ' '] ts)
  | nested {xs : List Json} (hnested : ∃ x ∈ xs, isScalar x = false)
    (h : Json.read (Json.write .plain (.arr xs)) = .ok (.arr xs)) :
    TextOf (.arr xs) (Json.write .plain (.arr xs))
  | obj {ms : Members} (h : Json.read (Json.write .plain (.obj ms)) = .ok (.obj ms)) :
    TextOf (.obj ms) (Json.write .plain (.obj ms))

theorem textOf_scalarText {v : Json} (hv : v.Sound) (h : isScalar v = true) :
    TextOfScalar v (scalarText v) := by
  cases v with
  | null => exact .null
  | str s => exact .str s
  | bool b => exact .bool (Json.read_write_ascii hv)
  | int i => exact .int (Json.read_write_ascii hv)
  | float x => exact .float (Json.read_write_ascii hv)
  | arr xs => cases h
  | obj ms => cases h

/-- **Every value has the text** that it should have. -/
theorem textOf_fieldText {v : Json} (hv : v.Sound) : TextOf v (fieldText v) := by
  cases v with
  | arr xs =>
    rw [fieldText]
    -- with nothing nested, and with lists or objects in it
    split
    · next hflat =>
      apply TextOf.flat
      rw [List.forall₂_map_right_iff, List.forall₂_same]
      cases hv with
      | arr hxs => exact fun x hx => textOf_scalarText (hxs x hx) (List.all_eq_true.mp hflat x hx)
    · next hnested =>
      have hnested : ∃ x ∈ xs, isScalar x = false := by simpa using hnested
      exact .nested hnested (Json.read_write_plain hv)
  | obj ms => exact .obj (Json.read_write_plain hv)
  | _ => exact .scalar (textOf_scalarText hv rfl)

/-- **The eight texts** of a card, with the names of their members. -/
def fields : List (Text × (Card → Text)) :=
  [("name", name), ("description", description), ("personality", personality),
    ("scenario", scenario), ("first_mes", greeting), ("mes_example", exampleDialogue),
    ("system_prompt", systemPrompt), ("post_history_instructions", postHistory)]

/-- **Each text is that of its member**, which is null when there is none. -/
theorem textOf_of_mem_fields {ms : Members} (h : (Json.obj ms).Sound) {f : Text × (Card → Text)}
    (hf : f ∈ fields) : TextOf (ms.get f.1) (f.2 (ofMembers ms)) := by
  -- the texts are all made alike, so one fact holds of the eight
  have hget : ∀ k, TextOf (ms.get k) (fieldText (ms.get k)) := by
    intro k
    apply textOf_fieldText
    rw [Members.get]
    cases hfound : ms.get? k with
    | none => exact .null
    | some v =>
      cases h with
      | obj hnodup hms => exact hms _ (Entries.mem_of_get?_eq_some hfound)
  simp only [fields, List.mem_cons, List.not_mem_nil, or_false] at hf
  rcases hf with rfl | rfl | rfl | rfl | rfl | rfl | rfl | rfl <;> exact hget _

/-! ## Payloads -/

/-- **What a card is read from**: nothing, a text, or bytes. -/
inductive Payload
  | nothing
  | text (t : Text)
  | bytes (bs : List UInt8)

namespace Payload

/-- **The card of a payload.** -/
def card : Payload → Except Fault Card
  | nothing => read []
  | text t => read t
  | bytes bs => readBytes bs

/-- Payloads with nothing in them. -/
def IsEmpty : Payload → Prop
  | nothing => True
  | text t => t = []
  | bytes bs => bs = []

/-- **The texts that a payload carries**: a text itself, and bytes those of which they are the bytes
in one of the formats. -/
def Carries : Payload → Text → Prop
  | nothing, _ => False
  | text u, t => u = t
  | bytes bs, t => Json.BytesOf t bs

/-- **The faults that are not of the card**: the bytes are no text in the format that they tell, or
a whole number in the text has too many digits, there where the fault is. -/
inductive Escapes : Payload → Fault → Prop
  | undecodable {bs : List UInt8} {f : DecodeFault}
    (h : ∀ t, ¬ (Json.formatOf bs).1.Encodes t (bs.drop (Json.formatOf bs).2)) :
    Escapes (bytes bs) (.undecodable f)
  | tooManyDigits {p : Payload} {before s : Text} {n : Nat} (hp : p.Carries (before ++ s))
    (hs : Numeral.Overlong n s (before ++ s)) : Escapes p (.malformed ⟨.tooManyDigits n, before⟩)

variable {c : Card} {fault : Fault}

/-- A card from a text is read from an object, or from none. -/
theorem card_text_eq_ok_iff {t : Text} :
    (text t).card = .ok c ↔ (t = [] ∧ c = {}) ∨
      ∃ ms : Members, Json.read t = .ok (.obj ms) ∧ c = ofMembers ms.unwrapped := by
  rw [card, read]
  by_cases ht : t = []
  · -- the empty text is a card without being a document
    have hnone : ∀ ms : Members, Json.read [] ≠ .ok (.obj ms) := fun ms h => by cases h
    subst ht
    simp [hnone, eq_comm]
  · rw [if_neg (by simpa using ht)]
    cases Json.read t with
    | error f => simp [ht]
    | ok v =>
      dsimp only
      rw [ofJson_eq_ok_iff]
      simp [ht]

/-- A card from bytes is read from an object, or from none. -/
theorem card_bytes_eq_ok_iff {bs : List UInt8} :
    (bytes bs).card = .ok c ↔ (bs = [] ∧ c = {}) ∨
      ∃ ms : Members, Json.readBytes bs = .ok (.obj ms) ∧ c = ofMembers ms.unwrapped := by
  rw [card, readBytes]
  by_cases hbs : bs = []
  · have hnone : ∀ ms : Members, Json.readBytes [] ≠ .ok (.obj ms) := fun ms h => by cases h
    subst hbs
    simp [hnone, eq_comm]
  · rw [if_neg (by simpa using hbs)]
    cases Json.readBytes bs with
    | error f => cases f <;> simp [hbs]
    | ok v =>
      dsimp only
      rw [ofJson_eq_ok_iff]
      simp [hbs]

/-- **The payloads from which a card is read**: those with nothing in them, and those that carry the
document of an object. -/
theorem card_eq_ok_iff {p : Payload} :
    p.card = .ok c ↔ (p.IsEmpty ∧ c = {}) ∨
      ∃ (t : Text) (ms : Members), p.Carries t ∧
        Json.IsDocument (· ≤ Numeral.maxDigits) t (.obj ms) ∧ c = ofMembers ms.unwrapped := by
  cases p with
  | nothing =>
    show (Except.ok {} = Except.ok c) ↔ _
    simp [IsEmpty, Carries, eq_comm]
  | text t =>
    rw [card_text_eq_ok_iff]
    simp only [Json.read_eq_ok_iff, IsEmpty, Carries]
    refine or_congr_right ⟨?_, ?_⟩
    · rintro ⟨ms, hms, hc⟩
      exact ⟨t, ms, rfl, hms, hc⟩
    · rintro ⟨_, ms, rfl, hms, hc⟩
      exact ⟨ms, hms, hc⟩
  | bytes bs =>
    rw [card_bytes_eq_ok_iff]
    simp only [Json.readBytes_obj_iff, IsEmpty, Carries]
    refine or_congr_right ⟨?_, ?_⟩
    · rintro ⟨ms, ⟨t, ht, hms⟩, hc⟩
      exact ⟨t, ms, ht, hms, hc⟩
    · rintro ⟨t, ms, ht, hms, hc⟩
      exact ⟨ms, ⟨t, ht, hms⟩, hc⟩

/-- **A payload is a card, a broken one**, or has another fault of which it gives the cause. -/
theorem isOfCard_or_escapes {p : Payload} (h : p.card = .error fault) :
    fault.isOfCard = true ∨ p.Escapes fault := by
  cases p with
  | nothing => cases h
  | text t =>
    rcases isOfCard_or_tooManyDigits h with hofCard | ⟨n, before, hread, rfl⟩
    · exact Or.inl hofCard
    · obtain ⟨s, rfl, hs⟩ := Json.overlong_of_read hread
      exact Or.inr (.tooManyDigits rfl hs)
  | bytes bs =>
    rw [card, readBytes] at h
    split at h
    · cases h
    by_cases hdecodes : ∃ t, (Json.formatOf bs).1.Encodes t (bs.drop (Json.formatOf bs).2)
    · obtain ⟨t, ht⟩ := hdecodes
      rw [Json.readBytes_of_encodes ht] at h
      cases hread : Json.readDocument t with
      | error f =>
        rw [hread] at h
        cases h
        rcases malformed_or_tooManyDigits f with hofCard | ⟨n, before, rfl⟩
        · exact Or.inl hofCard
        · obtain ⟨s, rfl, hs⟩ := Json.overlong_of_readDocument hread
          exact Or.inr (.tooManyDigits (Json.bytesOf_of_encodes ht) hs)
      | ok v =>
        rw [hread] at h
        exact Or.inl (isOfCard_of_ofJson h)
    · obtain ⟨f, hfault⟩ := Json.exists_decodeFault (not_exists.mp hdecodes)
      rw [hfault] at h
      cases h
      exact Or.inr (.undecodable (not_exists.mp hdecodes))

end Payload

/-! ## The laws -/

/-- **What is no card is reported as broken.** A card is read from an empty payload and from one
that carries the document of an object, and is made of the members of that object. From every other
payload none is read, and the fault is one of the card, unless the bytes are no text in the format
that they tell or a whole number has too many digits. -/
theorem card_or_broken (p : Payload) :
    (∀ c, p.card = .ok c ↔ (p.IsEmpty ∧ c = {}) ∨
      ∃ (t : Text) (ms : Members), p.Carries t ∧
        Json.IsDocument (· ≤ Numeral.maxDigits) t (.obj ms) ∧ c = ofMembers ms.unwrapped) ∧
    ∀ fault, p.card = .error fault → fault.isOfCard = true ∨ p.Escapes fault :=
  ⟨fun _ => Payload.card_eq_ok_iff, fun _ => Payload.isOfCard_or_escapes⟩

/-- An object in units of two bytes is a card, and a list is a broken one. -/
theorem card_or_broken_units :
    (Payload.bytes [0xFF, 0xFE, 0x7B, 0, 0x20, 0, 0x7D, 0]).card = .ok {} ∧
      (Payload.text "[1]").card = .error (.notObject "list") ∧
      (Fault.notObject "list").isOfCard = true := by
  have hobject : Json.read "\x7b \x7d" = .ok (.obj []) := rfl
  have hunits : Json.BytesOf "\x7b \x7d" [0xFF, 0xFE, 0x7B, 0, 0x20, 0, 0x7D, 0] :=
    ⟨.utf16le, [0xFF, 0xFE], _, rfl, Or.inr rfl, [0x7B, 0x20, 0x7D], by decide, by decide,
      by decide⟩
  have hlist : (Payload.text "[1]").card = .error (.notObject "list") := rfl
  refine ⟨?_, hlist, ?_⟩
  · exact ((card_or_broken _).1 {}).mpr
      (Or.inr ⟨_, [], hunits, Json.read_eq_ok_iff.mp hobject, rfl⟩)
  · rcases (card_or_broken _).2 _ hlist with hofCard | hescapes
    · exact hofCard
    · cases hescapes

/-- **Not every fault is one of the card**: a byte that no text begins with is another. -/
theorem card_escapes :
    ¬ ∀ (p : Payload) (fault : Fault), p.card = .error fault → fault.isOfCard = true := by
  intro hbroken
  have hcard : (Payload.bytes [0xFF]).card =
      .error (.undecodable ⟨.utf8, 0xFF, 0, 1, .invalidStart⟩) := rfl
  cases hbroken _ _ hcard

/-- **A card in an envelope is the card itself.** -/
theorem envelope_transparent {p q : Payload} {t u : Text} {e d : Members} (hp : p.Carries t)
    (ht : Json.IsDocument (· ≤ Numeral.maxDigits) t (.obj e)) (hq : q.Carries u)
    (hu : Json.IsDocument (· ≤ Numeral.maxDigits) u (.obj d)) (hdata : e.get "data" = .obj d)
    (hown : ∀ inner, d.get "data" ≠ .obj inner) :
    ∃ c, p.card = .ok c ∧ q.card = .ok c ∧ ∀ f ∈ fields, TextOf (d.get f.1) (f.2 c) := by
  have henvelope : e.unwrapped = d := by
    rw [Members.unwrapped, hdata]
  have hflat : d.unwrapped = d := by
    rw [Members.unwrapped]
    split
    · next inner hinner => exact absurd hinner (hown inner)
    · rfl
  refine ⟨ofMembers d, ?_, ?_, fun f hf => textOf_of_mem_fields ?_ hf⟩
  · exact Payload.card_eq_ok_iff.mpr (Or.inr ⟨t, e, hp, ht, by rw [henvelope]⟩)
  · exact Payload.card_eq_ok_iff.mpr (Or.inr ⟨u, d, hq, hu, by rw [hflat]⟩)
  · obtain ⟨w, v, w', -, hv, -, -⟩ := hu
    exact hv.sound

/-- A number for a name and a list for a description, with another name on the envelope. -/
theorem envelope_transparent_list :
    let d : Members := [("name", .int 5), ("description", .arr [.str "tall", .null])]
    let e : Members := [("name", .str "Aria"), ("data", .obj d)]
    ∃ c, (Payload.text (Json.write .plain (.obj e))).card = .ok c ∧
      (Payload.text (Json.write .plain (.obj d))).card = .ok c ∧
      c.name = "5" ∧ c.description = "tall, " := by
  intro d e
  have hlist : (Json.arr [.str "tall", .null]).Sound :=
    .arr (List.forall_mem_cons.mpr ⟨.str _, List.forall_mem_singleton.mpr .null⟩)
  have hd : (Json.obj d).Sound :=
    .obj (by decide) (List.forall_mem_cons.mpr
      ⟨Json.sound_int (by decide +kernel), List.forall_mem_singleton.mpr hlist⟩)
  have he : (Json.obj e).Sound :=
    .obj (by decide) (List.forall_mem_cons.mpr ⟨.str _, List.forall_mem_singleton.mpr hd⟩)
  obtain ⟨c, hp, hq, hc⟩ := envelope_transparent (p := .text _) (q := .text _) rfl
    (Json.read_eq_ok_iff.mp (Json.read_write_plain he)) rfl
    (Json.read_eq_ok_iff.mp (Json.read_write_plain hd)) rfl fun inner h => by cases h
  refine ⟨c, hp, hq, ?_, ?_⟩
  · have hname : TextOf (.int 5) c.name := hc ("name", name) (by simp [fields])
    generalize c.name = s at hname
    cases hname with
    | scalar h => cases h with
      | int => rfl
  · have hdescription : TextOf (.arr [.str "tall", .null]) c.description :=
      hc ("description", description) (by simp [fields])
    generalize c.description = s at hdescription
    cases hdescription with
    | scalar h => cases h
    | flat h =>
      obtain _ | ⟨⟨⟩, _ | ⟨⟨⟩, ⟨⟩⟩⟩ := h
      rfl
    | nested h => simp [isScalar] at h

/-- **With a number of any length the law fails**: a name that is a whole number with too many
digits makes no card, neither in an envelope nor without one. -/
theorem envelope_escapes :
    ¬ ∀ (p q : Payload) (t u : Text) (e d : Members), p.Carries t →
      Json.IsDocument (fun _ => True) t (.obj e) → q.Carries u →
      Json.IsDocument (fun _ => True) u (.obj d) → e.get "data" = .obj d →
      (∀ inner, d.get "data" ≠ .obj inner) →
      ∃ c, p.card = .ok c ∧ q.card = .ok c ∧ ∀ f ∈ fields, TextOf (d.get f.1) (f.2 c) := by
  intro htransparent
  -- the text is kept closed, so that nothing computes with its digits
  obtain ⟨digits, hdigits, hlength⟩ : ∃ digits : Text,
      Text.AllDigits ('1' :: digits) ∧ Numeral.maxDigits < ('1' :: digits).length := by
    refine ⟨List.replicate Numeral.maxDigits '1', ?_, ?_⟩
    · intro d hd
      rw [List.eq_of_mem_replicate (n := Numeral.maxDigits + 1) hd]
      rfl
    · rw [List.length_cons, List.length_replicate]
      exact Nat.lt_succ_self _
  have hname := Json.spellsString_writeString true "name"
  have hnumber : Json.Spells (fun _ => True) ('1' :: digits) _ :=
    .number (.int false ⟨hdigits, Or.inr ⟨'1', digits, rfl, by decide⟩⟩ trivial)
  have hflat := Json.Spells.single hname hnumber
  have henvelope := Json.Spells.single (Json.spellsString_writeString true "data") hflat
  obtain ⟨c, -, hcard, -⟩ := htransparent (.text _) (.text _) _ _ _ _ rfl henvelope.isDocument rfl
    hflat.isDocument rfl fun inner h => by cases h
  obtain ⟨hempty, -⟩ | ⟨u, ms, hu, hdocument, -⟩ := Payload.card_eq_ok_iff.mp hcard
  · cases hempty
  · cases hu
    exact Json.not_isDocument_of_tooManyDigits hname hdigits (by decide) hlength _ hdocument

end Card

end Roleplay
