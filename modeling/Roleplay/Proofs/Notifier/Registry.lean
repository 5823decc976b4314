import Roleplay.Proofs.Notifier.Delivery

/-!
# The registry of subscribers

A notifier keeps its subscriptions in one list. By conversation they make a registry: every
conversation that has subscribers, with its queues in the order in which they came. A conversation
enters the registry with its first queue and leaves it with its last, so none stands there without
queues, and no queue stands there twice.

## Main definitions

* `Registry`, `Registry.enrol`, `Registry.withdraw`: the queues by conversation
* `Registry.WellFormed`: every conversation once, and none without queues
* `Audience.registry`: the registry after a run
* `Registry.Lists`: the registry has the subscriptions of a notifier

## Main results

* `Registry.of_enrol`, `Registry.of_withdraw`: the queues of a conversation after each change
* `Audience.lists_registry`: after every run the registry has the notifier's subscriptions
* `Audience.nodup_queues_registry`: no queue is registered twice
-/

namespace Roleplay

/-! ## Queues by conversation -/

/-- **A registry**: conversations with the queues that are subscribed to them. -/
abbrev Registry := List (Int × List Nat)

namespace Registry

variable {r : Registry}

/-- The queues of a conversation. -/
def of (r : Registry) (c : Int) : List Nat :=
  (r.lookup c).getD []

/-- All queues, conversation by conversation. -/
def queues (r : Registry) : List Nat :=
  r.flatMap (·.2)

/-- **A queue more** for a conversation, which is entered when it is not there. -/
def enrol (c : Int) (q : Nat) : Registry → Registry
  | [] => [(c, [q])]
  | (d, qs) :: r => if d = c then (d, qs ++ [q]) :: r else (d, qs) :: enrol c q r

/-- **A queue less** for a conversation, which is struck off with its last queue. -/
def withdraw (c : Int) (q : Nat) : Registry → Registry
  | [] => []
  | (d, qs) :: r =>
    if d = c then
      if q ∈ qs then
        if (qs.erase q).isEmpty then r else (d, qs.erase q) :: r
      else (d, qs) :: r
    else (d, qs) :: withdraw c q r

/-- **A well-formed registry**: every conversation once, and none without queues. -/
structure WellFormed (r : Registry) : Prop where
  distinct : (r.map (·.1)).Nodup
  inhabited : ∀ p ∈ r, p.2 ≠ []

@[simp] theorem of_nil (c : Int) : of [] c = [] := rfl

theorem of_cons (d : Int) (qs : List Nat) (r : Registry) (c : Int) :
    of ((d, qs) :: r) c = if d = c then qs else r.of c := by
  by_cases hd : d = c
  · subst hd
    simp [of]
  · have hc : (c == d) = false := beq_false_of_ne (Ne.symm hd)
    simp [of, List.lookup_cons, hc, hd]

theorem of_eq_nil_of_notMem {c : Int} (h : c ∉ r.map (·.1)) : r.of c = [] := by
  induction r with
  | nil => rfl
  | cons p r ih =>
    simp only [List.map_cons, List.mem_cons, not_or] at h
    rw [of_cons, if_neg (Ne.symm h.1), ih h.2]

/-- A conversation that stands in the registry once has the queues of its entry. -/
theorem of_mem (h : (r.map (·.1)).Nodup) {p : Int × List Nat} (hp : p ∈ r) : r.of p.1 = p.2 := by
  induction r with
  | nil => cases hp
  | cons p' r ih =>
    obtain ⟨hnew, hdistinct⟩ := List.nodup_cons.mp h
    rw [of_cons]
    rcases List.mem_cons.mp hp with rfl | hp
    · exact if_pos rfl
    · rw [if_neg, ih hdistinct hp]
      intro heq
      exact hnew (List.mem_map.mpr ⟨p, hp, heq.symm⟩)

/-- **The queues after enrolling**: the new one comes to the end of its conversation. -/
theorem of_enrol (r : Registry) (c : Int) (q : Nat) (d : Int) :
    (r.enrol c q).of d = r.of d ++ if c = d then [q] else [] := by
  induction r with
  | nil =>
    rw [enrol, of_cons, of_nil, List.nil_append]
  | cons p r ih =>
    obtain ⟨k, qs⟩ := p
    rw [enrol]
    by_cases hk : k = c
    · subst hk
      rw [if_pos rfl, of_cons, of_cons]
      by_cases hd : k = d <;> simp [hd]
    · rw [if_neg hk, of_cons, of_cons, ih]
      by_cases hd : k = d
      · have hcd : c ≠ d := fun h => hk (hd.trans h.symm)
        simp [hd, hcd]
      · simp [hd]

theorem mem_keys_enrol {c : Int} {q : Nat} {k : Int} (h : k ∈ (r.enrol c q).map (·.1)) :
    k = c ∨ k ∈ r.map (·.1) := by
  induction r with
  | nil => simpa [enrol] using h
  | cons p r ih =>
    obtain ⟨d, qs⟩ := p
    rw [enrol] at h
    split at h
    · exact Or.inr h
    · rcases List.mem_cons.mp h with rfl | h
      · exact Or.inr List.mem_cons_self
      · exact (ih h).imp_right (List.mem_cons_of_mem _)

theorem WellFormed.enrol (h : r.WellFormed) (c : Int) (q : Nat) : (r.enrol c q).WellFormed := by
  induction r with
  | nil =>
    refine ⟨List.nodup_singleton _, ?_⟩
    intro p hp
    rw [List.mem_singleton.mp hp]
    exact List.cons_ne_nil _ _
  | cons p r ih =>
    obtain ⟨d, qs⟩ := p
    obtain ⟨hnew, hdistinct⟩ := List.nodup_cons.mp h.distinct
    have hrest : WellFormed r := ⟨hdistinct, fun p hp => h.inhabited p (List.mem_cons_of_mem _ hp)⟩
    rw [Registry.enrol]
    split
    · refine ⟨h.distinct, ?_⟩
      intro p hp
      rcases List.mem_cons.mp hp with rfl | hp
      · exact List.append_ne_nil_of_right_ne_nil _ (List.cons_ne_nil _ _)
      · exact hrest.inhabited p hp
    · next hd =>
      refine ⟨List.nodup_cons.mpr ⟨fun hmem => ?_, (ih hrest).distinct⟩, ?_⟩
      · rcases mem_keys_enrol hmem with heq | hmem
        · exact hd heq
        · exact hnew hmem
      · intro p hp
        rcases List.mem_cons.mp hp with rfl | hp
        · exact h.inhabited _ List.mem_cons_self
        · exact (ih hrest).inhabited p hp

/-- **The queues after withdrawing**: that of the conversation is taken away. -/
theorem of_withdraw (h : (r.map (·.1)).Nodup) (c : Int) (q : Nat) (d : Int) :
    (r.withdraw c q).of d = if c = d then (r.of d).erase q else r.of d := by
  induction r with
  | nil => simp [withdraw]
  | cons p r ih =>
    obtain ⟨k, qs⟩ := p
    obtain ⟨hnew, hdistinct⟩ := List.nodup_cons.mp h
    rw [withdraw]
    by_cases hk : k = c
    · subst hk
      rw [if_pos rfl, of_cons]
      by_cases hq : q ∈ qs
      · rw [if_pos hq]
        by_cases hd : k = d
        · -- an entry that is struck off has no other behind it
          subst hd
          rw [if_pos rfl, if_pos rfl]
          split
          · next hempty => rw [of_eq_nil_of_notMem hnew, List.isEmpty_iff.mp hempty]
          · rw [of_cons, if_pos rfl]
        · rw [if_neg hd, if_neg hd]
          split
          · rfl
          · rw [of_cons, if_neg hd]
      · rw [if_neg hq, of_cons]
        by_cases hd : k = d <;> simp [hd, List.erase_of_not_mem hq]
    · rw [if_neg hk, of_cons, of_cons, ih hdistinct]
      by_cases hd : k = d
      · have hcd : c ≠ d := fun h => hk (hd.trans h.symm)
        simp [hd, hcd]
      · simp [hd]

theorem keys_withdraw_sublist (r : Registry) (c : Int) (q : Nat) :
    ((r.withdraw c q).map (·.1)).Sublist (r.map (·.1)) := by
  induction r with
  | nil => exact List.Sublist.refl _
  | cons p r ih =>
    obtain ⟨d, qs⟩ := p
    rw [withdraw]
    split
    · split
      · split
        · exact List.sublist_cons_self _ _
        · exact List.Sublist.refl _
      · exact List.Sublist.refl _
    · exact ih.cons_cons d

theorem inhabited_withdraw (h : ∀ p ∈ r, p.2 ≠ []) (c : Int) (q : Nat) :
    ∀ p ∈ r.withdraw c q, p.2 ≠ [] := by
  induction r with
  | nil => exact h
  | cons p r ih =>
    obtain ⟨d, qs⟩ := p
    have hrest : ∀ p ∈ r, p.2 ≠ [] := fun p hp => h p (List.mem_cons_of_mem _ hp)
    rw [withdraw]
    split
    · split
      · split
        · exact hrest
        · next hempty =>
          intro p hp
          rcases List.mem_cons.mp hp with rfl | hp
          · simpa using hempty
          · exact hrest p hp
      · exact h
    · intro p hp
      rcases List.mem_cons.mp hp with rfl | hp
      · exact h _ List.mem_cons_self
      · exact ih hrest p hp

theorem WellFormed.withdraw (h : r.WellFormed) (c : Int) (q : Nat) : (r.withdraw c q).WellFormed :=
  ⟨h.distinct.sublist (keys_withdraw_sublist r c q), inhabited_withdraw h.inhabited c q⟩

/-- **Withdrawing a queue that is not there** changes nothing. -/
theorem withdraw_of_notMem {c : Int} {q : Nat} (h : q ∉ r.of c) : r.withdraw c q = r := by
  induction r with
  | nil => rfl
  | cons p r ih =>
    obtain ⟨d, qs⟩ := p
    rw [of_cons] at h
    rw [withdraw]
    by_cases hd : d = c
    · rw [if_pos hd] at h
      rw [if_pos hd, if_neg h]
    · rw [if_neg hd] at h
      rw [if_neg hd, ih h]

end Registry

/-! ## The subscriptions of a notifier -/

namespace Notifier

variable {α : Type}

theorem subscribed_subscribe (n : Notifier α) (c d : Int) :
    (n.subscribe c).1.subscribed d = n.subscribed d ++ if c = d then [n.queues.length] else [] := by
  by_cases hd : c = d <;> simp [subscribe, subscribed, List.filter_append, hd]

theorem subscribed_unsubscribe (n : Notifier α) (c : Int) (q : Nat) (d : Int) :
    (n.unsubscribe c q).subscribed d =
      if c = d then (n.subscribed d).erase q else n.subscribed d := by
  simp only [unsubscribe, subscribed]
  induction n.subscriptions with
  | nil => simp
  | cons s subs ih =>
    obtain ⟨k, r⟩ := s
    by_cases hs : (k, r) = (c, q)
    · -- the subscription that ends is the first one
      obtain ⟨rfl, rfl⟩ := Prod.mk.inj hs
      rw [List.erase_cons_head]
      by_cases hd : k = d <;> simp [hd]
    · rw [List.erase_cons_tail (by simpa using hs)]
      by_cases hk : k = d
      · subst hk
        by_cases hc : c = k
        · have hr : r ≠ q := by simpa [hc] using hs
          simp only [hc, if_true] at ih ⊢
          simp [ih, hr]
        · simp only [hc, if_false] at ih ⊢
          simp [ih]
      · simpa [hk] using ih

/-- An unsubscription depends on the subscriptions of its conversation only. -/
theorem unsubscribe_of_notMem {n : Notifier α} {c : Int} {q : Nat} (h : q ∉ n.subscribed c) :
    n.unsubscribe c q = n := by
  have hmem : (c, q) ∉ n.subscriptions := by
    intro hmem
    apply h
    rw [subscribed, List.mem_map]
    exact ⟨(c, q), List.mem_filter.mpr ⟨hmem, decide_eq_true rfl⟩, rfl⟩
  rw [unsubscribe, List.erase_of_not_mem hmem]

end Notifier

/-- **A registry has the subscriptions of a notifier**: the same queues for every conversation, in
the same order. -/
structure Registry.Lists {α : Type} (r : Registry) (n : Notifier α) : Prop where
  wellFormed : r.WellFormed
  of_eq : ∀ c, r.of c = n.subscribed c

/-! ## The registry after a run -/

namespace Audience

variable {α : Type}

/-- What a listener unsubscribes when it hears its next signal: its queue, when that signal is to
stop. -/
def leaving (a : Audience α) (i : Nat) : Option (Int × Nat) :=
  match a.listeners[i]? with
  | none => none
  | some l =>
    if l.ended then none
    else match a.notifier.pending l.queue with
      | .stop :: _ => some (l.conversation, l.queue)
      | _ => none

/-- **The registry after a run**: subscribing and listening enrol the queue that is opened,
unsubscribing withdraws it, as a listener does that ends, and stopping leaves nothing. -/
def registry (capacity : Int) : List (Move α) → Registry
  | [] => []
  | .subscribe c :: h | .listen c :: h => (registry capacity h).enrol c (opened h)
  | .unsubscribe c q :: h => (registry capacity h).withdraw c q
  | .hear i :: h =>
    match (after capacity h).leaving i with
    | none => registry capacity h
    | some (c, q) => (registry capacity h).withdraw c q
  | .stop :: _ => []
  | .start :: h | .publish _ _ :: h | .take _ :: h => registry capacity h

variable {capacity : Int} {h : List (Move α)}

/-- A listener that ends has a queue that was stopped, and is subscribed no more. -/
theorem Exact.subscription_of_leaving (x : Exact capacity h) {i : Nat} {c : Int} {q : Nat}
    (hl : (after capacity h).leaving i = some (c, q)) : subscription q h = none := by
  rw [leaving] at hl
  split at hl
  · cases hl
  · split at hl
    · cases hl
    · split at hl
      · next hpending =>
        obtain ⟨-, rfl⟩ := Prod.mk.inj (Option.some.inj hl)
        exact subscription_of_stopped
          (x.stopped_of_mem_pending (hpending ▸ List.mem_cons_self))
      · cases hl

/-- A move that changes queues only leaves the subscriptions. -/
theorem Exact.subscriptions_move_of_source (x : Exact capacity h) {m : Move α}
    (hm : (∃ q, m = .take q) ∨ ∃ i, m = .hear i) :
    ((after capacity h).move m).notifier.subscriptions =
      (after capacity h).notifier.subscriptions := by
  rw [x.notifier_move_of_source hm]
  cases (after capacity h).source m with
  | none => rfl
  | some q =>
    simp only
    rw [((after capacity h).notifier.take_frame q).1]

/-- **After every run the registry has the notifier's subscriptions.** -/
theorem lists_registry (capacity : Int) (h : List (Move α)) :
    (registry capacity h).Lists (after capacity h).notifier := by
  induction h with
  | nil => exact ⟨⟨List.nodup_nil, fun p hp => absurd hp List.not_mem_nil⟩, fun c => rfl⟩
  | cons m h ih =>
    have x := exact_after capacity h
    -- what is subscribed is read off the subscriptions alone
    have hsame : ((after capacity h).move m).notifier.subscriptions =
        (after capacity h).notifier.subscriptions →
        (registry capacity h).Lists (after capacity (m :: h)).notifier := by
      intro hsubs
      refine ⟨ih.wellFormed, fun c => ?_⟩
      rw [ih.of_eq, Notifier.subscribed, Notifier.subscribed, after, hsubs]
    have hopening : ∀ c, ((registry capacity h).enrol c (opened h)).Lists
        ((after capacity h).notifier.subscribe c).1 := by
      intro c
      refine ⟨ih.wellFormed.enrol c _, fun d => ?_⟩
      rw [Registry.of_enrol, ih.of_eq, Notifier.subscribed_subscribe, x.opens]
    cases m with
    | start => exact hsame rfl
    | stop => exact ⟨⟨List.nodup_nil, fun p hp => absurd hp List.not_mem_nil⟩, fun c => rfl⟩
    | subscribe c => exact hopening c
    | listen c => exact hopening c
    | unsubscribe c q =>
      refine ⟨ih.wellFormed.withdraw c q, fun d => ?_⟩
      rw [registry, Registry.of_withdraw ih.wellFormed.distinct, ih.of_eq]
      exact (Notifier.subscribed_unsubscribe _ c q d).symm
    | publish c e => 
      rw [registry]
      exact hsame (by rw [move, ((after capacity h).notifier.publish_frame c e).1])
    | take q => exact hsame (x.subscriptions_move_of_source (Or.inl ⟨q, rfl⟩))
    | hear i =>
      have hrest := hsame (x.subscriptions_move_of_source (Or.inr ⟨i, rfl⟩))
      rw [registry]
      split
      · exact hrest
      · next c q hl =>
        -- the queue of the listener is subscribed no more
        have hnot : q ∉ (registry capacity h).of c := by
          rw [ih.of_eq, x.mem_subscribed_iff, x.subscription_of_leaving hl]
          exact Option.some_ne_none _ ∘ Eq.symm
        rw [Registry.withdraw_of_notMem hnot]
        exact hrest

theorem mem_queues_registry_iff (capacity : Int) (h : List (Move α)) (q : Nat) :
    q ∈ (registry capacity h).queues ↔ (subscription q h).isSome = true := by
  have x := exact_after capacity h
  have hlists := lists_registry capacity h
  rw [Registry.queues, List.mem_flatMap, Option.isSome_iff_exists]
  constructor
  · rintro ⟨p, hp, hq⟩
    refine ⟨p.1, ?_⟩
    rw [← x.mem_subscribed_iff, ← hlists.of_eq, Registry.of_mem hlists.wellFormed.distinct hp]
    exact hq
  · rintro ⟨c, hc⟩
    rw [← x.mem_subscribed_iff, ← hlists.of_eq] at hc
    by_cases hkey : c ∈ (registry capacity h).map (·.1)
    · obtain ⟨p, hp, rfl⟩ := List.mem_map.mp hkey
      rw [Registry.of_mem hlists.wellFormed.distinct hp] at hc
      exact ⟨p, hp, hc⟩
    · rw [Registry.of_eq_nil_of_notMem hkey] at hc
      cases hc

/-- **No queue is registered twice.** -/
theorem nodup_queues_registry (capacity : Int) (h : List (Move α)) :
    (registry capacity h).queues.Nodup := by
  have x := exact_after capacity h
  have hlists := lists_registry capacity h
  have hentry : ∀ p ∈ registry capacity h, p.2 = (after capacity h).notifier.subscribed p.1 := by
    intro p hp
    rw [← hlists.of_eq, Registry.of_mem hlists.wellFormed.distinct hp]
  rw [Registry.queues, List.nodup_flatMap]
  constructor
  · intro p hp
    rw [hentry p hp]
    exact x.nodup_subscribed p.1
  · -- a queue is subscribed to one conversation
    refine (List.pairwise_map.mp hlists.wellFormed.distinct).imp_of_mem ?_
    intro p p' hp hp' hne q hq hq'
    simp only [hentry p hp, x.mem_subscribed_iff] at hq
    simp only [hentry p' hp', x.mem_subscribed_iff] at hq'
    exact hne (Option.some.inj (hq.symm.trans hq'))

/-- **The registry is empty** when no queue is subscribed. -/
theorem registry_eq_nil (hnone : ∀ q, subscription q h = none) : registry capacity h = [] := by
  by_contra hne
  obtain ⟨p, hp⟩ := List.exists_mem_of_ne_nil _ hne
  have hqueues := (lists_registry capacity h).wellFormed.inhabited p hp
  obtain ⟨q, hq⟩ := List.exists_mem_of_ne_nil _ hqueues
  have hmem : q ∈ (registry capacity h).queues := List.mem_flatMap.mpr ⟨p, hp, hq⟩
  rw [mem_queues_registry_iff, hnone] at hmem
  exact Bool.false_ne_true hmem

end Audience

end Roleplay
