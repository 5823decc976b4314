import Mathlib.Data.List.Perm.Basic
import Roleplay.Proofs.Notifier.Registry

/-!
# Queues have room for what is put into them

A queue has one place more than it may hold events, and refuses a signal when all its places are
taken. An event is only put where fewer signals wait than it may hold, so it is never refused. The
place that is left is that of the stop signal: it is put into a queue that is subscribed, and such a
queue has had none yet, so it is not refused either. A queue that was stopped is never subscribed
again, whatever is done later, and so nothing comes behind its stop signal.

## Main definitions

* `Notifier.isFull`, `Notifier.put?`: the places of a queue
* `Notifier.publish?`, `Notifier.stop?`: publishing and stopping when full queues refuse
* `Audience.received`: all that a queue got in a run

## Main results

* `Notifier.publish?_eq`: publishing is never refused
* `Notifier.stop?_eq`: stopping is not refused where every registered queue has a place left
* `Audience.length_events_le`: in a run no queue holds more events than it may
* `Audience.received_append`: nothing comes behind the stop signal
* `Audience.never_overflows`: the bounds of a notifier, after every run
-/

namespace Roleplay

/-- The events among some signals. -/
def Signal.events {α : Type} (ss : List (Signal α)) : List α :=
  ss.filterMap fun
    | .event e => some e
    | .stop => none

@[simp] theorem Signal.events_append {α : Type} (ss ts : List (Signal α)) :
    Signal.events (ss ++ ts) = Signal.events ss ++ Signal.events ts :=
  List.filterMap_append

theorem Signal.events_sublist {α : Type} {ss ts : List (Signal α)} (h : ss.Sublist ts) :
    (Signal.events ss).Sublist (Signal.events ts) :=
  h.filterMap _

@[simp] theorem Signal.events_event {α : Type} (e : α) : Signal.events [.event e] = [e] := rfl

@[simp] theorem Signal.events_ofEvents {α : Type} (es : List α) (stopped : Bool) :
    Signal.events (Signal.ofEvents es stopped) = es := by
  have hmap : Signal.events (es.map Signal.event) = es := by
    rw [events, List.filterMap_map]
    exact List.filterMap_some
  have hstop : Signal.events (α := α) (if stopped then [.stop] else []) = [] := by
    cases stopped <;> rfl
  rw [ofEvents, events_append, hmap, hstop, List.append_nil]

namespace Notifier

variable {α : Type}

/-! ## Full queues -/

/-- **Whether a queue is full**: it has one place more than it may hold events, and places without
end when that is no positive number. -/
def isFull (n : Notifier α) (q : Nat) : Bool :=
  0 < n.capacity + 1 && n.capacity + 1 ≤ (n.pending q).length

/-- **Putting a signal into a queue**, which a full queue refuses. -/
def put? (n : Notifier α) (q : Nat) (s : Signal α) : Option (Notifier α) :=
  if n.isFull q then none else some (n.push q s)

/-- An event put into the queues that have room, unless one refuses it. -/
def deliver? (e : α) : List Nat → Notifier α → Option (Notifier α × Nat)
  | [], n => some (n, 0)
  | q :: qs, n =>
    if n.hasRoom q then do
      let n ← n.put? q (.event e)
      let (n, k) ← deliver? e qs n
      return (n, k + 1)
    else deliver? e qs n

/-- **Publishing to the registered queues** of a conversation, unless one refuses. -/
def publish? (n : Notifier α) (r : Registry) (c : Int) (e : α) : Option (Notifier α × Nat) :=
  if n.running then deliver? e (r.of c) n else some (n, 0)

/-- **Stopping all registered queues**, unless one refuses. -/
def stop? (n : Notifier α) (r : Registry) : Option (Notifier α) :=
  (r.queues.foldlM (put? · · .stop) n).map fun n =>
    { n with running := false, subscriptions := [] }

/-- A queue that has room for an event is not full. -/
theorem isFull_of_hasRoom {n : Notifier α} {q : Nat} (h : n.hasRoom q = true) :
    n.isFull q = false := by
  have hlt : ((n.pending q).length : Int) < n.capacity := of_decide_eq_true h
  have hnot : ¬ n.capacity + 1 ≤ ((n.pending q).length : Int) := by omega
  simp [isFull, hnot]

/-- A queue with no more signals than it may hold events has a place left. -/
theorem isFull_of_length_le {n : Notifier α} {q : Nat}
    (h : ((n.pending q).length : Int) ≤ n.capacity) : n.isFull q = false := by
  have hnot : ¬ n.capacity + 1 ≤ ((n.pending q).length : Int) := by omega
  simp [isFull, hnot]

theorem isFull_push {n : Notifier α} {q r : Nat} (hq : q < n.queues.length) (hqr : q ≠ r)
    (s : Signal α) : (n.push q s).isFull r = n.isFull r := by
  rw [isFull, pending_push hq, if_neg hqr]
  rfl

theorem deliver?_eq (e : α) (qs : List Nat) (n : Notifier α) :
    deliver? e qs n = some (deliver e qs n) := by
  induction qs generalizing n with
  | nil => rfl
  | cons q qs ih =>
    rw [deliver?, deliver]
    by_cases hroom : n.hasRoom q = true
    · rw [if_pos hroom, if_pos hroom, put?, isFull_of_hasRoom hroom]
      simp [ih]
    · rw [if_neg hroom, if_neg hroom, ih]

/-- **Publishing is never refused.** -/
theorem publish?_eq {n : Notifier α} {r : Registry} (h : r.Lists n) (c : Int) (e : α) :
    n.publish? r c e = some (n.publish c e) := by
  rw [publish?, publish, h.of_eq]
  split
  · exact deliver?_eq e _ n
  · rfl

/-! ## Stopping -/

/-- A signal pushed into two queues, in either order. -/
theorem push_comm (n : Notifier α) (q r : Nat) (s : Signal α) :
    (n.push q s).push r s = (n.push r s).push q s := by
  by_cases hqr : q = r
  · rw [hqr]
  · simp only [push, List.modify_modify_ne _ _ _ hqr]

/-- A signal is put into queues that are not full, each of them once. -/
theorem foldlM_put? {qs : List Nat} {n : Notifier α} (hnodup : qs.Nodup)
    (hqs : ∀ q ∈ qs, q < n.queues.length ∧ n.isFull q = false) (s : Signal α) :
    qs.foldlM (put? · · s) n = some (qs.foldl (push · · s) n) := by
  induction qs generalizing n with
  | nil => rfl
  | cons q qs ih =>
    obtain ⟨hq, hnodup⟩ := List.nodup_cons.mp hnodup
    obtain ⟨hlt, hfull⟩ := hqs q List.mem_cons_self
    have hrest : ∀ r ∈ qs, r < (n.push q s).queues.length ∧ (n.push q s).isFull r = false := by
      intro r hr
      obtain ⟨hrlt, hrfull⟩ := hqs r (List.mem_cons_of_mem q hr)
      rw [length_queues_push, isFull_push hlt (fun h => hq (h ▸ hr))]
      exact ⟨hrlt, hrfull⟩
    rw [List.foldlM_cons, put?, hfull, List.foldl_cons, ← ih hnodup hrest]
    rfl

/-- **Stopping is not refused** where every registered queue has a place left. -/
theorem stop?_eq {n : Notifier α} {r : Registry} (hnodup : r.queues.Nodup)
    (hperm : r.queues.Perm (n.subscriptions.map (·.2)))
    (hqs : ∀ q ∈ r.queues, q < n.queues.length ∧ n.isFull q = false) :
    n.stop? r = some n.stop := by
  have hcomm : RightCommutative (push (α := α) · · .stop) :=
    ⟨fun n q r => push_comm n q r .stop⟩
  -- the queues are gone through in another order, which makes no difference
  rw [stop?, foldlM_put? hnodup hqs, hperm.foldl_eq, List.foldl_map]
  rfl

end Notifier

namespace Audience

variable {α : Type} {capacity : Int} {h : List (Move α)}

/-! ## What waits -/

/-- **No queue holds more events than it may.** -/
theorem length_events_le (hcapacity : 0 ≤ capacity) (h : List (Move α)) (q : Nat) :
    ((Signal.events ((after capacity h).notifier.pending q)).length : Int) ≤ capacity := by
  induction h with
  | nil => exact hcapacity
  | cons m h ih =>
    have x := exact_after capacity h
    have hopening : ∀ c, ((Signal.events (((after capacity h).notifier.subscribe c).1.pending
        q)).length : Int) ≤ capacity := by
      intro c
      rw [Notifier.pending_subscribe]
      exact ih
    -- what is taken is one less
    have htaking : (∃ q, m = .take q) ∨ (∃ i, m = .hear i) →
        ((Signal.events ((after capacity (m :: h)).notifier.pending q)).length : Int) ≤
          capacity := by
      intro hm
      rw [after, x.notifier_move_of_source hm]
      split
      · exact ih
      · next r _ =>
        rw [Notifier.pending_take]
        split
        · have hle := (Signal.events_sublist
            (List.drop_sublist 1 ((after capacity h).notifier.pending q))).length_le
          omega
        · exact ih
    cases m with
    | start => exact ih
    | stop =>
      show ((Signal.events ((after capacity h).notifier.stop.pending q)).length : Int) ≤ capacity
      rw [Notifier.pending_stop x.once x.lt_length]
      split
      · simpa [Signal.events] using ih
      · simpa using ih
    | subscribe c => exact hopening c
    | listen c => exact hopening c
    | unsubscribe c r => exact ih
    | publish c e =>
      show ((Signal.events (((after capacity h).notifier.publish c e).1.pending q)).length : Int) ≤
        capacity
      rw [(x.publish_spec c e).1 q]
      by_cases hreceives : receives capacity h c q = true
      · -- an event comes where fewer signals wait than the queue may hold events
        have hlt : (((after capacity h).notifier.pending q).length : Int) < capacity := by
          simp only [receives, Bool.and_eq_true, decide_eq_true_eq] at hreceives
          exact hreceives.2
        have hle : (Signal.events ((after capacity h).notifier.pending q)).length ≤
            ((after capacity h).notifier.pending q).length := List.length_filterMap_le _ _
        rw [if_pos hreceives, Signal.events_append, Signal.events_event, List.length_append,
          List.length_singleton]
        omega
      · simpa [if_neg hreceives] using ih
    | take r => exact htaking (Or.inl ⟨r, rfl⟩)
    | hear i => exact htaking (Or.inr ⟨i, rfl⟩)

/-- What waits in a queue that is not stopped is events only. -/
theorem Exact.length_pending_of_subscription (x : Exact capacity h) (hcapacity : 0 ≤ capacity)
    {q : Nat} {c : Int} (hq : subscription q h = some c) :
    (((after capacity h).notifier.pending q).length : Int) ≤ capacity := by
  obtain ⟨es, stopped', hpending⟩ := Signal.eq_ofEvents_of_append_eq (x.delivered q)
  have hevents := length_events_le hcapacity h q
  have hnot : stopped' = false := by
    by_contra htrue
    rw [Bool.not_eq_false] at htrue
    have hmem : Signal.stop ∈ (after capacity h).notifier.pending q := by
      rw [hpending, htrue]
      exact List.mem_append_right _ List.mem_cons_self
    rw [subscription_of_stopped (x.stopped_of_mem_pending hmem)] at hq
    cases hq
  rw [hpending, Signal.events_ofEvents] at hevents
  rw [hpending, hnot]
  simpa [Signal.ofEvents] using hevents

/-- **Stopping after a run** is refused by no queue. -/
theorem stop?_after (hcapacity : 0 ≤ capacity) (h : List (Move α)) :
    (after capacity h).notifier.stop? (registry capacity h) =
      some (after capacity h).notifier.stop := by
  have x := exact_after capacity h
  have hnodup := nodup_queues_registry capacity h
  refine Notifier.stop?_eq hnodup ?_ ?_
  · rw [List.perm_ext_iff_of_nodup hnodup x.once]
    intro q
    rw [mem_queues_registry_iff, x.mem_queues_iff]
  · intro q hq
    obtain ⟨c, hc⟩ := Option.isSome_iff_exists.mp ((mem_queues_registry_iff capacity h q).mp hq)
    constructor
    · rw [x.opens]
      exact lt_opened_of_subscription hc
    · apply Notifier.isFull_of_length_le
      rw [x.sized]
      exact x.length_pending_of_subscription hcapacity hc

/-! ## What comes later -/

/-- **All that a queue got** in a run: what was taken from it and what still waits. -/
def received (capacity : Int) (q : Nat) (h : List (Move α)) : List (Signal α) :=
  taken capacity q h ++ (after capacity h).notifier.pending q

theorem received_eq (capacity : Int) (q : Nat) (h : List (Move α)) :
    received capacity q h = Signal.ofEvents (due capacity q h) (stopped q h) :=
  (exact_after capacity h).delivered q

theorem stopped_iff_mem_received (capacity : Int) (q : Nat) (h : List (Move α)) :
    .stop ∈ received capacity q h ↔ stopped q h = true := by
  rw [received_eq, Signal.ofEvents]
  cases stopped q h <;> simp

/-- **Nothing comes behind the stop signal**, whatever is done later. -/
theorem received_append {q : Nat} (hq : stopped q h = true) (later : List (Move α)) :
    stopped q (later ++ h) = true ∧ received capacity q (later ++ h) = received capacity q h := by
  induction later with
  | nil => exact ⟨hq, rfl⟩
  | cons m later ih =>
    obtain ⟨hstopped, hreceived⟩ := ih
    rw [received_eq, received_eq] at hreceived
    rw [received_eq, received_eq, List.cons_append]
    have hnone : subscription q (later ++ h) = none := subscription_of_stopped hstopped
    cases m with
    | stop =>
      have hagain : stopped q (.stop :: (later ++ h)) = true := by simp [stopped, hstopped]
      rw [hstopped] at hreceived
      rw [hagain]
      exact ⟨rfl, hreceived⟩
    | publish c e =>
      have hreceives : receives capacity (later ++ h) c q = false := by simp [receives, hnone]
      rw [due, hreceives]
      simpa using ⟨hstopped, hreceived⟩
    | start => exact ⟨hstopped, hreceived⟩
    | subscribe c => exact ⟨hstopped, hreceived⟩
    | listen c => exact ⟨hstopped, hreceived⟩
    | unsubscribe c r => exact ⟨hstopped, hreceived⟩
    | take r => exact ⟨hstopped, hreceived⟩
    | hear i => exact ⟨hstopped, hreceived⟩

/-- **A queue whose subscription has ended** is not subscribed again: a later subscription opens a
queue of its own. -/
theorem subscription_append {q : Nat} {c : Int} (hq : q < opened h)
    (hc : subscription q h ≠ some c) (later : List (Move α)) :
    q < opened (later ++ h) ∧ subscription q (later ++ h) ≠ some c := by
  induction later with
  | nil => exact ⟨hq, hc⟩
  | cons m later ih =>
    obtain ⟨hlt, hne⟩ := ih
    rw [List.cons_append]
    cases m with
    | subscribe d =>
      rw [opened, subscription, if_neg (Nat.ne_of_gt hlt)]
      exact ⟨Nat.lt_succ_of_lt hlt, hne⟩
    | listen d =>
      rw [opened, subscription, if_neg (Nat.ne_of_gt hlt)]
      exact ⟨Nat.lt_succ_of_lt hlt, hne⟩
    | unsubscribe d r =>
      refine ⟨hlt, ?_⟩
      rw [subscription]
      split
      · exact Option.some_ne_none c ∘ Eq.symm
      · exact hne
    | stop => exact ⟨hlt, Option.some_ne_none c ∘ Eq.symm⟩
    | start => exact ⟨hlt, hne⟩
    | publish d e => exact ⟨hlt, hne⟩
    | take r => exact ⟨hlt, hne⟩
    | hear i => exact ⟨hlt, hne⟩

/-- Unsubscribing and stopping end a subscription. -/
theorem subscription_of_end {q : Nat} {c : Int} {m : Move α}
    (hm : m = .unsubscribe c q ∨ m = .stop) : subscription q (m :: h) ≠ some c := by
  rcases hm with rfl | rfl
  · rw [subscription]
    split
    · exact Option.some_ne_none c ∘ Eq.symm
    · next hne => exact fun hc => hne ⟨rfl, hc⟩
  · exact Option.some_ne_none c ∘ Eq.symm

/-- **Unsubscribing without a subscription** changes nothing. -/
theorem unsubscribe_of_subscription_ne {q : Nat} {c : Int} (hc : subscription q h ≠ some c) :
    after capacity (.unsubscribe c q :: h) = after capacity h ∧
      registry capacity (.unsubscribe c q :: h) = registry capacity h := by
  have hnot : q ∉ (after capacity h).notifier.subscribed c := by
    rw [(exact_after capacity h).mem_subscribed_iff]
    exact hc
  constructor
  · rw [after, move, Notifier.unsubscribe_of_notMem hnot]
  · rw [← (lists_registry capacity h).of_eq] at hnot
    exact Registry.withdraw_of_notMem hnot

/-! ## The bounds of a notifier -/

/-- **A notifier never overflows, and is silent when it has stopped**, after every run. No queue
holds more events than it may, and one stop signal behind them. No queue refuses what is put into it,
neither when an event is published nor at a stop. A queue gets one stop signal at most, and nothing
behind it, whatever is done later. The registry has no queue twice and no conversation without
queues, and is empty when nobody is subscribed. Unsubscribing a queue again, or when the notifier was
stopped since the queue was opened, changes nothing. -/
theorem never_overflows (hcapacity : 0 ≤ capacity) (h : List (Move α)) :
    (∀ q, ∃ es stopped, (after capacity h).notifier.pending q = Signal.ofEvents es stopped ∧
      (es.length : Int) ≤ capacity) ∧
    ((after capacity h).notifier.stop? (registry capacity h) =
        some (after capacity (.stop :: h)).notifier ∧
      ∀ c e, (after capacity h).notifier.publish? (registry capacity h) c e =
        some ((after capacity h).notifier.publish c e)) ∧
    (∀ q, (∃ es stopped, received capacity q h = Signal.ofEvents es stopped) ∧
      (.stop ∈ received capacity q h →
        ∀ later, received capacity q (later ++ h) = received capacity q h)) ∧
    ((registry capacity h).queues.Nodup ∧ (∀ p ∈ registry capacity h, p.2 ≠ []) ∧
      ((∀ q, subscription q h = none) → registry capacity h = [])) ∧
    ∀ c q m later, q < opened h → (m = .unsubscribe c q ∨ m = .stop) →
      after capacity (.unsubscribe c q :: (later ++ m :: h)) = after capacity (later ++ m :: h) ∧
      registry capacity (.unsubscribe c q :: (later ++ m :: h)) =
        registry capacity (later ++ m :: h) := by
  have x := exact_after capacity h
  have hlists := lists_registry capacity h
  refine ⟨?_, ⟨stop?_after hcapacity h, ?_⟩, ?_, ?_, ?_⟩
  · intro q
    obtain ⟨es, stopped, hpending⟩ := Signal.eq_ofEvents_of_append_eq (x.delivered q)
    have hevents := length_events_le hcapacity h q
    rw [hpending, Signal.events_ofEvents] at hevents
    exact ⟨es, stopped, hpending, hevents⟩
  · intro c e
    exact Notifier.publish?_eq hlists c e
  · intro q
    refine ⟨⟨_, _, received_eq capacity q h⟩, ?_⟩
    intro hstop later
    exact (received_append ((stopped_iff_mem_received capacity q h).mp hstop) later).2
  · exact ⟨nodup_queues_registry capacity h, hlists.wellFormed.inhabited, registry_eq_nil⟩
  · intro c q m later hq hm
    have hopened : q < opened (m :: h) := by rcases hm with rfl | rfl <;> exact hq
    exact unsubscribe_of_subscription_ne
      (subscription_append hopened (subscription_of_end hm) later).2

/-- Two subscribers with room for one event: the second event is dropped, one of them unsubscribes
and the other is stopped. After a restart it gets nothing more, and may unsubscribe late. -/
theorem never_overflows_restarted :
    let h : List (Move Nat) := [.stop, .unsubscribe 7 1, .publish 7 11, .publish 7 10,
      .subscribe 7, .subscribe 7, .start]
    let later : List (Move Nat) := [.publish 7 12, .start]
    0 ≤ (1 : Int) ∧ received 1 0 h = [.event 10, .stop] ∧
      received 1 0 (later ++ h) = received 1 0 h ∧
      (∀ q, subscription q h = none) ∧ registry 1 h = [] ∧
      0 < opened h ∧ after 1 (.unsubscribe 7 0 :: (later ++ .stop :: h)) =
        after 1 (later ++ .stop :: h) := by
  intro h later
  have hnone : ∀ q, subscription q h = none := fun q => rfl
  obtain ⟨-, -, hreceived, ⟨-, -, hregistry⟩, hagain⟩ := @never_overflows Nat 1 (by decide) h
  exact ⟨by decide, by decide, (hreceived 0).2 (by decide) later, hnone, hregistry hnone, by decide,
    (hagain 7 0 .stop later (by decide) (Or.inr rfl)).1⟩

end Audience

end Roleplay
