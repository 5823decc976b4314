import Roleplay.Proofs.Text.Fold
import Roleplay.Proofs.Text.Strip
import Roleplay.Transcript

/-!
# The echo of a speaker

A model that continues a transcript tends to begin its answer with the label of the speaker: the
name, a colon, and blanks around the colon as there may be. A text begins with a label in one way at
most, whatever characters the name has: up to case texts are compared character by character, so
where the name ends is known, and a colon is no blank, so the blanks before it end there.

One label is taken off and no more. What a speaker says is therefore found again behind the label,
also when it begins with such a label itself.

## Main definitions

* `Text.LabelledBy t speaker said`: `t` is `said` behind the label of a speaker

## Main results

* `afterSpeaker?_eq_some_iff`: what is found behind a label
* `exists_strip_append_colon`: stripping leaves a label as it is
* `withoutSpeaker_of_label`: an answer without its speaker
-/

namespace Roleplay

open Text

variable {t speaker said : Text}

/-- **A text behind the label of a speaker**: the name in any case, a colon, and blanks around the
colon. What is said begins behind all of them. -/
def Text.LabelledBy (t speaker said : Text) : Prop :=
  ∃ name gap gap' : Text, t = name ++ (gap ++ ':' :: (gap' ++ said)) ∧ name.SameFolded speaker ∧
    Only isBlank gap ∧ Only isBlank gap' ∧ ∀ c ∈ said.head?, isBlank c = false

theorem colon_not_blank : isBlank ':' = false := by decide

/-- **What is found behind a label** is what is said behind it. -/
theorem afterSpeaker?_eq_some_iff :
    afterSpeaker? t speaker = some said ↔ t.LabelledBy speaker said := by
  constructor
  · intro h
    unfold afterSpeaker? at h
    split at h
    · cases h
    · next rest hname =>
      split at h
      · next back hgap =>
        obtain ⟨name, rfl, hfold⟩ := dropFolded?_eq_some_iff.mp hname
        obtain ⟨gap, hblank, rfl, -⟩ := dropWhile_eq_iff.mp hgap
        obtain ⟨gap', hblank', rfl, hsaid⟩ := dropWhile_eq_iff.mp (Option.some.inj h)
        exact ⟨name, gap, gap', rfl, hfold, hblank, hblank', hsaid⟩
      · cases h
  · rintro ⟨name, gap, gap', rfl, hfold, hblank, hblank', hsaid⟩
    have hname : ∀ rest : Text, dropFolded? (name ++ rest) speaker = some rest :=
      fun rest => dropFolded?_eq_some_iff.mpr ⟨name, rfl, hfold⟩
    -- the blanks before the colon end at the colon
    have hgap : List.dropWhile isBlank (gap ++ ':' :: (gap' ++ said)) = ':' :: (gap' ++ said) :=
      dropWhile_eq_iff.mpr ⟨gap, hblank, rfl, by simp [colon_not_blank]⟩
    have hgap' : List.dropWhile isBlank (gap' ++ said) = said :=
      dropWhile_eq_iff.mpr ⟨gap', hblank', rfl, hsaid⟩
    simp only [afterSpeaker?, hname, hgap, hgap']

instance (t speaker said : Text) : Decidable (t.LabelledBy speaker said) :=
  decidable_of_iff _ afterSpeaker?_eq_some_iff

/-- **Stripping leaves a label as it is**: the name is no blank in front, and the colon none at the
end. Behind the label the text is stripped, blanks before it apart. -/
theorem exists_strip_append_colon (hne : speaker ≠ [])
    (hstart : ∀ c ∈ speaker.head?, isBlank c = false) (t : Text) :
    ∃ gap : Text, Only isBlank gap ∧
      strip (speaker ++ ':' :: t) = speaker ++ ':' :: (gap ++ t.strip) := by
  obtain ⟨gap, gap', hblank, hblank', ht⟩ := exists_eq_append_strip t
  by_cases hempty : t.strip = []
  · -- nothing is said, so the colon is the last character that stays
    rw [hempty, List.nil_append] at ht
    have hall : Only isBlank t := by
      rw [ht]
      exact List.forall_mem_append.mpr ⟨hblank, hblank'⟩
    have hname : List.dropWhile isBlank speaker = speaker :=
      dropWhile_eq_iff.mpr ⟨[], by simp [Only], rfl, hstart⟩
    refine ⟨[], by simp [Only], ?_⟩
    rw [← List.singleton_append, ← List.append_assoc, strip_append_of_blank_right hall,
      strip_concat colon_not_blank, hname, hempty, List.append_nil]
  · -- something is said, and its last character stays
    refine ⟨gap, hblank, ?_⟩
    have hsplit : speaker ++ ':' :: t = speaker ++ ':' :: (gap ++ t.strip) ++ gap' := by
      conv_lhs => rw [ht]
      simp
    have hstripped : Stripped (speaker ++ ':' :: (gap ++ t.strip)) := by
      apply stripped_iff.mpr
      rw [List.head?_append_of_ne_nil _ hne, ← List.cons_append, ← List.append_assoc,
        List.getLast?_append_of_ne_nil _ hempty]
      exact ⟨hstart, (stripped_iff.mp (stripped_strip t)).2⟩
    rw [hsplit, strip_append_of_blank_right hblank']
    exact hstripped

/-- What a speaker says is behind the label. -/
theorem labelledBy_append (hne : speaker ≠ []) (hstart : ∀ c ∈ speaker.head?, isBlank c = false)
    (reply : Text) :
    (strip (speaker ++ [':', ' '] ++ reply)).LabelledBy speaker reply.strip := by
  have hspace : strip (' ' :: reply) = reply.strip :=
    strip_append_of_blank (s := [' ']) (by decide) reply
  obtain ⟨gap, hblank, hstrip⟩ := exists_strip_append_colon hne hstart (' ' :: reply)
  rw [List.append_assoc, List.cons_append, List.singleton_append, hstrip, hspace]
  exact ⟨speaker, [], gap, rfl, rfl, by simp [Only], hblank,
    (stripped_iff.mp (stripped_strip reply)).1⟩

/-- **An answer without its speaker** is the stripped answer without the one label that it begins
with, or the whole of it when it begins with none. What a speaker says is found again behind the
label of the speaker, whatever it is. -/
theorem withoutSpeaker_of_label (t speaker : Text) :
    (speaker ≠ [] → ∀ said, t.strip.LabelledBy speaker said → withoutSpeaker t speaker = said) ∧
      ((speaker = [] ∨ ∀ said, ¬ t.strip.LabelledBy speaker said) →
        withoutSpeaker t speaker = t.strip) ∧
      (speaker ≠ [] → (∀ c ∈ speaker.head?, isBlank c = false) → ∀ reply : Text,
        withoutSpeaker (speaker ++ [':', ' '] ++ reply) speaker = reply.strip) := by
  have hlabel : speaker ≠ [] → ∀ t said, t.strip.LabelledBy speaker said →
      withoutSpeaker t speaker = said := by
    intro hne t said h
    simp [withoutSpeaker, hne, afterSpeaker?_eq_some_iff.mpr h]
  refine ⟨fun hne => hlabel hne t, ?_, ?_⟩
  · rintro (rfl | hnone)
    · rfl
    · have hafter : afterSpeaker? t.strip speaker = none := by
        apply Option.eq_none_iff_forall_ne_some.mpr
        exact fun said h => hnone said (afterSpeaker?_eq_some_iff.mp h)
      simp [withoutSpeaker, hafter]
  · exact fun hne hstart reply => hlabel hne _ _ (labelledBy_append hne hstart reply)

/-- **A name with a colon of its own**: the sign of the Kelvin is a `k` in another case, the blanks
and the colon behind the name belong to the label, and the label in what is said stays. A point in a
name stands for itself only. -/
theorem withoutSpeaker_of_label_kelvin :
    let speaker : Text := "K. (Ann):"
    let said : Text := "k. (ann):: no."
    let t : Text := "  \u212a. (ANN): \t:  k. (ann):: no. "
    let other : Text := "kx (ann):: no. "
    t.strip.LabelledBy speaker said ∧ withoutSpeaker t speaker = said ∧
      (∀ said, ¬ other.strip.LabelledBy speaker said) ∧
      withoutSpeaker other speaker = other.strip ∧
      withoutSpeaker (speaker ++ [':', ' '] ++ said) speaker = said.strip := by
  intro speaker said t other
  have hlabelled : t.strip.LabelledBy speaker said := by decide +kernel
  have hnone : afterSpeaker? other.strip speaker = none := by decide +kernel
  have hother : ∀ said, ¬ other.strip.LabelledBy speaker said := by
    intro said h
    rw [← afterSpeaker?_eq_some_iff, hnone] at h
    cases h
  have hstart : ∀ c ∈ speaker.head?, isBlank c = false := by
    rintro c ⟨⟩
    decide
  obtain ⟨htaken, -, hfound⟩ := withoutSpeaker_of_label t speaker
  obtain ⟨-, hkept, -⟩ := withoutSpeaker_of_label other speaker
  exact ⟨hlabelled, htaken (by decide) said hlabelled, hother, hkept (.inr hother),
    hfound (by decide) hstart said⟩

end Roleplay
