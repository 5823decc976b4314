import Roleplay.Proofs.Notifier.Run

/-!
# Delivery is exact and ordered

What a queue should get is said of the moves of a run: the events that were published to its
conversation while the notifier ran, after it subscribed and before it unsubscribed or the notifier
was stopped, as long as it had room; and a stop signal when it was subscribed at a stop. What was
taken from a queue, with what still waits in it, is exactly that.

## Main definitions

* `Audience.receives`: whether a queue should get what is published next
* `Audience.due`, `Audience.stopped`: the events and the stop signal that a queue should get
* `Audience.Exact`: the state after a run is what its moves say

## Main results

* `Audience.exact_after`: every move keeps the state exact
* `Audience.attentive_after`: a listener has heard what was taken from its queue
* `Audience.delivery_exact`: delivery is exact and ordered
-/

namespace Roleplay.Audience

variable {α : Type}

/-! ## What a queue should get -/

/-- **Whether a queue should get** what is published next to a conversation: the notifier runs, the
queue is subscribed to that conversation, and fewer signals wait in it than it may hold. -/
def receives (capacity : Int) (h : List (Move α)) (c : Int) (q : Nat) : Bool :=
  isRunning h && (subscription q h = some c)
    && ((after capacity h).notifier.pending q).length < capacity

/-- **The events that a queue should get** in a run, in their order. -/
def due (capacity : Int) (q : Nat) : List (Move α) → List α
  | [] => []
  | .publish c e :: h => due capacity q h ++ if receives capacity h c q then [e] else []
  | _ :: h => due capacity q h

/-- **Whether a queue should get the stop signal**: it was subscribed at a stop. -/
def stopped (q : Nat) : List (Move α) → Bool
  | [] => false
  | .stop :: h => stopped q h || (subscription q h).isSome
  | _ :: h => stopped q h

/-- A queue that got the stop signal was opened. -/
theorem lt_opened_of_stopped {q : Nat} {h : List (Move α)} (hq : stopped q h = true) :
    q < opened h := by
  induction h with
  | nil => cases hq
  | cons m h ih =>
    cases m with
    | stop =>
      rw [stopped, Bool.or_eq_true] at hq
      rcases hq with hq | hq
      · exact ih hq
      · obtain ⟨c, hc⟩ := Option.isSome_iff_exists.mp hq
        exact lt_opened_of_subscription (h := h) hc
    | subscribe c => exact Nat.lt_succ_of_lt (ih hq)
    | listen c => exact Nat.lt_succ_of_lt (ih hq)
    | start => exact ih hq
    | unsubscribe c r => exact ih hq
    | publish c e => exact ih hq
    | take r => exact ih hq
    | hear i => exact ih hq

/-- **A queue that got the stop signal is subscribed never again**: a later subscription opens a
queue of its own. -/
theorem subscription_of_stopped {q : Nat} {h : List (Move α)} (hq : stopped q h = true) :
    subscription q h = none := by
  induction h with
  | nil => cases hq
  | cons m h ih =>
    cases m with
    | stop => rfl
    | subscribe c =>
      have hlt : q < opened h := lt_opened_of_stopped (h := h) hq
      rw [subscription, if_neg (Nat.ne_of_gt hlt), ih hq]
    | listen c =>
      have hlt : q < opened h := lt_opened_of_stopped (h := h) hq
      rw [subscription, if_neg (Nat.ne_of_gt hlt), ih hq]
    | unsubscribe c r =>
      have hnone : subscription q h = none := ih hq
      rw [subscription, hnone]
      split <;> rfl
    | start => exact ih hq
    | publish c e => exact ih hq
    | take r => exact ih hq
    | hear i => exact ih hq

theorem stopped_of_subscription {q : Nat} {c : Int} {h : List (Move α)}
    (hq : subscription q h = some c) : stopped q h = false := by
  by_contra hstopped
  rw [subscription_of_stopped (Bool.not_eq_false _ ▸ hstopped)] at hq
  cases hq

/-- Nothing is due to a queue that was not opened. -/
theorem due_of_opened_le {capacity : Int} {q : Nat} {h : List (Move α)} (hq : opened h ≤ q) :
    due capacity q h = [] := by
  induction h with
  | nil => rfl
  | cons m h ih =>
    cases m with
    | publish c e =>
      have hreceives : receives capacity h c q = false := by
        have hnot : subscription q h ≠ some c := fun hc =>
          absurd (lt_opened_of_subscription hc) (Nat.not_lt.mpr hq)
        simp [receives, hnot]
      rw [due, ih hq, hreceives]
      rfl
    | subscribe c => exact ih (Nat.le_of_succ_le hq)
    | listen c => exact ih (Nat.le_of_succ_le hq)
    | start => exact ih hq
    | stop => exact ih hq
    | unsubscribe c r => exact ih hq
    | take r => exact ih hq
    | hear i => exact ih hq

/-! ## The state after a run -/

/-- **The state after a run is what its moves say.** -/
structure Exact (capacity : Int) (h : List (Move α)) : Prop where
  sized : (after capacity h).notifier.capacity = capacity
  runs : (after capacity h).notifier.running = isRunning h
  opens : (after capacity h).notifier.queues.length = opened h
  subscribed : ∀ c q,
    (c, q) ∈ (after capacity h).notifier.subscriptions ↔ subscription q h = some c
  once : ((after capacity h).notifier.subscriptions.map (·.2)).Nodup
  delivered : ∀ q, taken capacity q h ++ (after capacity h).notifier.pending q =
    Signal.ofEvents (due capacity q h) (stopped q h)

namespace Exact

variable {capacity : Int} {h : List (Move α)}

theorem mem_queues_iff (x : Exact capacity h) (q : Nat) :
    q ∈ (after capacity h).notifier.subscriptions.map (·.2) ↔ (subscription q h).isSome = true := by
  rw [List.mem_map, Option.isSome_iff_exists]
  constructor
  · rintro ⟨⟨c, r⟩, hmem, rfl⟩
    exact ⟨c, (x.subscribed c r).mp hmem⟩
  · rintro ⟨c, hc⟩
    exact ⟨(c, q), (x.subscribed c q).mpr hc, rfl⟩

theorem lt_length (x : Exact capacity h) :
    ∀ s ∈ (after capacity h).notifier.subscriptions,
      s.2 < (after capacity h).notifier.queues.length := by
  rintro ⟨c, q⟩ hmem
  rw [x.opens]
  exact lt_opened_of_subscription ((x.subscribed c q).mp hmem)

theorem nodup_subscribed (x : Exact capacity h) (c : Int) :
    ((after capacity h).notifier.subscribed c).Nodup :=
  x.once.sublist (List.filter_sublist.map _)

theorem mem_subscribed_iff (x : Exact capacity h) (c : Int) (q : Nat) :
    q ∈ (after capacity h).notifier.subscribed c ↔ subscription q h = some c := by
  rw [← x.subscribed c q, Notifier.subscribed, List.mem_map]
  constructor
  · rintro ⟨⟨d, r⟩, hmem, rfl⟩
    obtain ⟨hmem, hd⟩ := List.mem_filter.mp hmem
    have hd : d = c := of_decide_eq_true hd
    exact hd ▸ hmem
  · intro hmem
    exact ⟨(c, q), List.mem_filter.mpr ⟨hmem, decide_eq_true rfl⟩, rfl⟩

/-- The notifier of the state has room in a queue exactly when that queue should get something. -/
theorem receives_iff (x : Exact capacity h) (hrun : (after capacity h).notifier.running = true)
    (c : Int) (q : Nat) :
    receives capacity h c q = true ↔
      q ∈ (after capacity h).notifier.subscribed c ∧
        (after capacity h).notifier.hasRoom q = true := by
  rw [x.mem_subscribed_iff, receives, Notifier.hasRoom, ← x.runs, hrun, x.sized]
  simp

theorem receives_of_not_running (x : Exact capacity h)
    (hrun : (after capacity h).notifier.running = false) (c : Int) (q : Nat) :
    receives capacity h c q = false := by
  rw [receives, ← x.runs, hrun]
  rfl

/-- **Publishing** gives the event to every queue that should get it, and counts these. -/
theorem publish_spec (x : Exact capacity h) (c : Int) (e : α) :
    (∀ q, ((after capacity h).notifier.publish c e).1.pending q =
        (after capacity h).notifier.pending q ++
          if receives capacity h c q then [.event e] else []) ∧
      ((after capacity h).notifier.publish c e).2 =
        ((List.range (opened h)).filter (receives capacity h c)).length := by
  by_cases hrun : (after capacity h).notifier.running = true
  · have hlt : ∀ q ∈ (after capacity h).notifier.subscribed c,
        q < (after capacity h).notifier.queues.length := by
      intro q hq
      rw [x.opens]
      exact lt_opened_of_subscription ((x.mem_subscribed_iff c q).mp hq)
    obtain ⟨hpending, hcount⟩ := Notifier.deliver_spec e (x.nodup_subscribed c) hlt
    rw [Notifier.publish, if_pos hrun]
    constructor
    · intro q
      rw [hpending]
      simp only [← x.receives_iff hrun c q]
    · -- both lists have the queues that should get the event, each once
      have hperm : (((after capacity h).notifier.subscribed c).filter
            (after capacity h).notifier.hasRoom).Perm
          ((List.range (opened h)).filter (receives capacity h c)) := by
        rw [List.perm_ext_iff_of_nodup ((x.nodup_subscribed c).filter _)
          (List.nodup_range.filter _)]
        intro q
        rw [List.mem_filter, List.mem_filter, ← x.receives_iff hrun c q, List.mem_range]
        constructor
        · intro hq
          refine ⟨?_, hq⟩
          exact lt_opened_of_subscription
            ((x.mem_subscribed_iff c q).mp ((x.receives_iff hrun c q).mp hq).1)
        · exact fun hq => hq.2
      rw [hcount, hperm.length_eq]
  · have hrun : (after capacity h).notifier.running = false := Bool.eq_false_iff.mpr hrun
    rw [Notifier.publish_of_not_running hrun]
    constructor
    · intro q
      rw [x.receives_of_not_running hrun]
      exact (List.append_nil _).symm
    · have hnone : (List.range (opened h)).filter (receives capacity h c) = [] := by
        apply List.filter_eq_nil_iff.mpr
        intro q _
        rw [x.receives_of_not_running hrun]
        exact Bool.false_ne_true
      rw [hnone]
      rfl

/-- A queue in which the stop signal waits was stopped. -/
theorem stopped_of_mem_pending (x : Exact capacity h) {q : Nat}
    (hq : Signal.stop ∈ (after capacity h).notifier.pending q) : stopped q h = true := by
  have hmem : Signal.stop ∈ Signal.ofEvents (due capacity q h) (stopped q h) := by
    rw [← x.delivered]
    exact List.mem_append_right _ hq
  by_contra hfalse
  simp [Signal.ofEvents, hfalse] at hmem

/-- **Hearing and taking** change the notifier alike: a signal is taken from the queue that is the
source. A listener that ends with it was subscribed no more. -/
theorem notifier_move_of_source (x : Exact capacity h) {m : Move α}
    (hm : (∃ q, m = .take q) ∨ ∃ i, m = .hear i) :
    ((after capacity h).move m).notifier =
      match (after capacity h).source m with
      | none => (after capacity h).notifier
      | some q => ((after capacity h).notifier.take? q).2 := by
  rcases hm with ⟨q, rfl⟩ | ⟨i, rfl⟩
  · rw [move, source]
    by_cases hq : (after capacity h).isHeard q = true
    · rw [if_pos hq, if_pos hq]
    · rw [if_neg hq, if_neg hq]
  · simp only [move, source]
    cases hl : (after capacity h).listeners[i]? with
    | none => rfl
    | some l =>
      simp only [Option.bind_some, Listener.next]
      by_cases hended : l.ended = true
      · simp only [if_pos hended]
      simp only [if_neg hended]
      cases hpending : (after capacity h).notifier.pending l.queue with
      | nil => simp only [Notifier.take_of_nil hpending]
      | cons s ss =>
        simp only [Notifier.take_of_cons hpending]
        cases s with
        | event e => rfl
        | stop =>
          -- the signal is there, so the queue is subscribed no more
          have hstopped : stopped l.queue h = true :=
            x.stopped_of_mem_pending (hpending ▸ List.mem_cons_self)
          have hnot : (l.conversation, l.queue) ∉ (after capacity h).notifier.subscriptions := by
            rw [x.subscribed, subscription_of_stopped hstopped]
            intro hsome
            cases hsome
          show { (after capacity h).notifier.mapQueue l.queue (·.drop 1) with
            subscriptions := (after capacity h).notifier.subscriptions.erase
              (l.conversation, l.queue) } = _
          rw [List.erase_of_not_mem hnot]
          rfl

/-! ### One move -/

/-- A move that changes queues only keeps the state exact when it delivers what is due. -/
theorem of_queues (x : Exact capacity h) {m : Move α} {n : Notifier α}
    (hmove : ((after capacity h).move m).notifier = n)
    (hframe : n = { (after capacity h).notifier with queues := n.queues } ∧
      n.queues.length = (after capacity h).notifier.queues.length)
    (hrun : isRunning (m :: h) = isRunning h) (hopened : opened (m :: h) = opened h)
    (hsub : ∀ q, subscription q (m :: h) = subscription q h)
    (hdelivered : ∀ q, taken capacity q (m :: h) ++ n.pending q =
      Signal.ofEvents (due capacity q (m :: h)) (stopped q (m :: h))) :
    Exact capacity (m :: h) := by
  obtain ⟨hframe, hlength⟩ := hframe
  refine ⟨?_, ?_, ?_, ?_, ?_, ?_⟩
  · rw [after, hmove, hframe]
    exact x.sized
  · rw [after, hmove, hframe, hrun]
    exact x.runs
  · rw [after, hmove, hlength, hopened]
    exact x.opens
  · intro c q
    rw [after, hmove, hframe, hsub]
    exact x.subscribed c q
  · rw [after, hmove, hframe]
    exact x.once
  · intro q
    rw [after, hmove]
    exact hdelivered q

theorem start (x : Exact capacity h) : Exact capacity (.start :: h) where
  sized := x.sized
  runs := rfl
  opens := x.opens
  subscribed := x.subscribed
  once := x.once
  delivered := by
    intro q
    have htaken : taken capacity q (.start :: h) = taken capacity q h := List.append_nil _
    rw [htaken]
    exact x.delivered q

theorem stop (x : Exact capacity h) : Exact capacity (.stop :: h) := by
  obtain ⟨hframe, hlength⟩ := (after capacity h).notifier.signal_frame
    (after capacity h).notifier.subscriptions
  refine ⟨?_, rfl, ?_, ?_, List.nodup_nil, ?_⟩
  · show ((after capacity h).notifier.signal _).capacity = capacity
    rw [hframe]
    exact x.sized
  · exact hlength.trans x.opens
  · intro c q
    exact ⟨fun hmem => absurd hmem List.not_mem_nil, fun hnone => by cases hnone⟩
  · intro q
    have htaken : taken capacity q (.stop :: h) = taken capacity q h := List.append_nil _
    show _ ++ (after capacity h).notifier.stop.pending q = Signal.ofEvents (due capacity q h) _
    rw [htaken, Notifier.pending_stop x.once x.lt_length, ← List.append_assoc, x.delivered]
    simp only [x.mem_queues_iff]
    rw [stopped]
    cases hq : subscription q h with
    | none => simp
    | some c =>
      -- a subscribed queue has not got its signal yet
      rw [stopped_of_subscription hq]
      simp [Signal.ofEvents]

/-- Subscribing and listening open a queue alike. -/
theorem opening (x : Exact capacity h) {m : Move α} {c : Int}
    (hm : m = .subscribe c ∨ m = .listen c) : Exact capacity (m :: h) := by
  have hnotifier : (after capacity (m :: h)).notifier =
      ((after capacity h).notifier.subscribe c).1 := by
    rcases hm with rfl | rfl <;> rfl
  have htaken : ∀ q, taken capacity q (m :: h) = taken capacity q h := by
    rcases hm with rfl | rfl <;> exact fun q => List.append_nil _
  have hopened : opened (m :: h) = opened h + 1 := by rcases hm with rfl | rfl <;> rfl
  have hsub : ∀ q, subscription q (m :: h) =
      if opened h = q then some c else subscription q h := by
    rcases hm with rfl | rfl <;> exact fun q => rfl
  have hdelivery : ∀ q, Signal.ofEvents (due capacity q (m :: h)) (stopped q (m :: h)) =
      Signal.ofEvents (due capacity q h) (stopped q h) := by
    rcases hm with rfl | rfl <;> exact fun q => rfl
  refine ⟨?_, ?_, ?_, ?_, ?_, ?_⟩
  · rw [hnotifier]
    exact x.sized
  · rw [hnotifier]
    rcases hm with rfl | rfl <;> exact x.runs
  · rw [hnotifier, hopened, Notifier.subscribe, ← x.opens]
    exact List.length_append
  · intro d q
    rw [hnotifier, hsub, Notifier.subscribe]
    simp only [List.mem_append, List.mem_singleton, Prod.mk.injEq, x.subscribed, x.opens]
    by_cases hq : opened h = q
    · -- the number of the new queue was not taken
      have hnot : subscription q h ≠ some d := fun hd =>
        absurd (lt_opened_of_subscription hd) (hq ▸ Nat.lt_irrefl _)
      simp [hq, hnot, eq_comm]
    · have hq' : q ≠ opened h := Ne.symm hq
      simp [hq, hq']
  · rw [hnotifier, Notifier.subscribe]
    simp only [List.map_append, List.map_cons, List.map_nil]
    rw [← List.concat_eq_append]
    refine List.Nodup.concat ?_ x.once
    rw [x.mem_queues_iff, x.opens, Option.isSome_iff_exists]
    rintro ⟨d, hd⟩
    exact absurd (lt_opened_of_subscription hd) (Nat.lt_irrefl _)
  · intro q
    rw [hnotifier, htaken, hdelivery, Notifier.pending_subscribe]
    exact x.delivered q

theorem unsubscribe (x : Exact capacity h) (c : Int) (r : Nat) :
    Exact capacity (.unsubscribe c r :: h) := by
  have hnodup : (after capacity h).notifier.subscriptions.Nodup := List.Nodup.of_map _ x.once
  refine ⟨x.sized, x.runs, x.opens, ?_, ?_, ?_⟩
  · intro d q
    show (d, q) ∈ (after capacity h).notifier.subscriptions.erase (c, r) ↔
      (if r = q ∧ subscription q h = some c then none else subscription q h) = some d
    rw [hnodup.mem_erase_iff, x.subscribed, ne_eq, Prod.mk.injEq, not_and]
    split
    · -- the subscription of `q` is the one that ends
      next hq =>
      obtain ⟨rfl, hc⟩ := hq
      rw [hc]
      constructor
      · rintro ⟨hne, heq⟩
        exact absurd rfl (hne (Option.some.inj heq).symm)
      · intro hnone
        cases hnone
    · next hq =>
      constructor
      · exact fun hd => hd.2
      · intro hd
        refine ⟨?_, hd⟩
        rintro rfl rfl
        exact hq ⟨rfl, hd⟩
  · exact x.once.sublist (List.erase_sublist.map _)
  · intro q
    have htaken : taken capacity q (.unsubscribe c r :: h) = taken capacity q h :=
      List.append_nil _
    rw [htaken]
    exact x.delivered q

theorem publish (x : Exact capacity h) (c : Int) (e : α) : Exact capacity (.publish c e :: h) := by
  have hframe := (after capacity h).notifier.publish_frame c e
  have hmove : ((after capacity h).move (.publish c e)).notifier =
      ((after capacity h).notifier.publish c e).1 := rfl
  refine x.of_queues hmove hframe rfl rfl (fun q => rfl) ?_
  intro q
  have htaken : taken capacity q (.publish c e :: h) = taken capacity q h := List.append_nil _
  have hstopped : stopped q (.publish c e :: h) = stopped q h := rfl
  rw [htaken, (x.publish_spec c e).1 q, ← List.append_assoc, x.delivered q, due, hstopped]
  by_cases hreceives : receives capacity h c q = true
  · -- a queue that receives is subscribed, so its signal is still to come
    have hsub : subscription q h = some c := by
      simp only [receives, Bool.and_eq_true, decide_eq_true_eq] at hreceives
      exact hreceives.1.2
    rw [if_pos hreceives, if_pos hreceives, stopped_of_subscription hsub]
    simp [Signal.ofEvents]
  · rw [if_neg hreceives, if_neg hreceives, List.append_nil, List.append_nil]

/-- Taking and hearing move a signal from what waits to what was taken. -/
theorem taking (x : Exact capacity h) {m : Move α}
    (hm : (∃ q, m = .take q) ∨ ∃ i, m = .hear i) : Exact capacity (m :: h) := by
  have hrun : isRunning (m :: h) = isRunning h := by
    rcases hm with ⟨_, rfl⟩ | ⟨_, rfl⟩ <;> rfl
  have hopened : opened (m :: h) = opened h := by
    rcases hm with ⟨_, rfl⟩ | ⟨_, rfl⟩ <;> rfl
  have hsub : ∀ q, subscription q (m :: h) = subscription q h := by
    rcases hm with ⟨_, rfl⟩ | ⟨_, rfl⟩ <;> exact fun q => rfl
  have hdelivery : ∀ q, Signal.ofEvents (due capacity q (m :: h)) (stopped q (m :: h)) =
      Signal.ofEvents (due capacity q h) (stopped q h) := by
    rcases hm with ⟨_, rfl⟩ | ⟨_, rfl⟩ <;> exact fun q => rfl
  have hmove := x.notifier_move_of_source hm
  cases hsource : (after capacity h).source m with
  | none =>
    rw [hsource] at hmove
    refine x.of_queues hmove ⟨rfl, rfl⟩ hrun hopened hsub ?_
    intro q
    rw [hdelivery, ← x.delivered q, taken, hsource]
    simp
  | some r =>
    rw [hsource] at hmove
    refine x.of_queues hmove ((after capacity h).notifier.take_frame r) hrun hopened hsub ?_
    intro q
    rw [hdelivery, ← x.delivered q, taken, hsource, Notifier.pending_take]
    by_cases hq : r = q
    · rw [if_pos hq, if_pos (congrArg some hq), List.append_assoc, List.take_append_drop]
    · rw [if_neg hq, if_neg (fun heq => hq (Option.some.inj heq)), List.append_nil]

end Exact

/-- **Every move keeps the state exact.** -/
theorem exact_after (capacity : Int) (h : List (Move α)) : Exact capacity h := by
  induction h with
  | nil =>
    refine ⟨rfl, rfl, rfl, ?_, List.nodup_nil, ?_⟩
    · intro c q
      exact ⟨fun hmem => absurd hmem List.not_mem_nil, fun hnone => by cases hnone⟩
    · exact fun q => rfl
  | cons m h x =>
    cases m with
    | start => exact x.start
    | stop => exact x.stop
    | subscribe c => exact x.opening (Or.inl rfl)
    | listen c => exact x.opening (Or.inr rfl)
    | unsubscribe c r => exact x.unsubscribe c r
    | publish c e => exact x.publish c e
    | take q => exact x.taking (Or.inl ⟨q, rfl⟩)
    | hear i => exact x.taking (Or.inr ⟨i, rfl⟩)

/-! ## Listeners -/

/-- **A listener has heard what was taken from its queue**, which is a queue of its own. -/
structure Attentive (capacity : Int) (h : List (Move α)) : Prop where
  own : ((after capacity h).listeners.map (·.queue)).Nodup
  opens : ∀ l ∈ (after capacity h).listeners, l.queue < opened h
  heard : ∀ l ∈ (after capacity h).listeners,
    taken capacity l.queue h = Signal.ofEvents l.heard l.ended

namespace Attentive

variable {capacity : Int} {h : List (Move α)}

/-- A move that leaves the listeners, and takes nothing from their queues. -/
theorem of_same (y : Attentive capacity h) {m : Move α}
    (hlisteners : ((after capacity h).move m).listeners = (after capacity h).listeners)
    (hopened : opened h ≤ opened (m :: h))
    (hsource : ∀ l ∈ (after capacity h).listeners, (after capacity h).source m ≠ some l.queue) :
    Attentive capacity (m :: h) := by
  refine ⟨?_, ?_, ?_⟩
  · rw [after, hlisteners]
    exact y.own
  · rw [after, hlisteners]
    exact fun l hl => Nat.lt_of_lt_of_le (y.opens l hl) hopened
  · rw [after, hlisteners]
    intro l hl
    rw [taken, if_neg (hsource l hl), List.append_nil]
    exact y.heard l hl

theorem take (y : Attentive capacity h) (q : Nat) : Attentive capacity (.take q :: h) := by
  by_cases hq : (after capacity h).isHeard q = true
  · refine y.of_same ?_ (Nat.le_refl _) ?_
    · rw [move, if_pos hq]
    · intro l _
      rw [source, if_pos hq]
      exact Option.some_ne_none _ ∘ Eq.symm
  · refine y.of_same ?_ (Nat.le_refl _) ?_
    · rw [move, if_neg hq]
    · intro l hl
      rw [source, if_neg hq]
      intro heq
      -- a queue of a listener is heard
      apply hq
      rw [Option.some.inj heq, isHeard, List.any_eq_true]
      exact ⟨l, hl, decide_eq_true rfl⟩

theorem listen (y : Attentive capacity h) (x : Exact capacity h) (c : Int) :
    Attentive capacity (.listen c :: h) := by
  have hlisteners : (after capacity (.listen c :: h)).listeners =
      (after capacity h).listeners ++
        [{ conversation := c, queue := (after capacity h).notifier.queues.length }] := rfl
  refine ⟨?_, ?_, ?_⟩
  · rw [hlisteners, List.map_append, List.map_cons, List.map_nil, ← List.concat_eq_append]
    refine List.Nodup.concat ?_ y.own
    rw [x.opens, List.mem_map]
    rintro ⟨l, hl, heq⟩
    exact absurd (y.opens l hl) (heq ▸ Nat.lt_irrefl _)
  · rw [hlisteners]
    intro l hl
    rcases List.mem_append.mp hl with hl | hl
    · exact Nat.lt_succ_of_lt (y.opens l hl)
    · rw [List.mem_singleton.mp hl]
      exact Nat.lt_succ_of_le (Nat.le_of_eq x.opens)
  · rw [hlisteners]
    intro l hl
    have htaken : taken capacity l.queue (.listen c :: h) = taken capacity l.queue h :=
      List.append_nil _
    rw [htaken]
    rcases List.mem_append.mp hl with hl | hl
    · exact y.heard l hl
    · -- nothing was due to the new queue before
      have hle : opened h ≤ l.queue := by
        rw [List.mem_singleton.mp hl]
        exact Nat.le_of_eq x.opens.symm
      have hstopped : stopped l.queue h = false := by
        by_contra hstopped
        exact absurd (lt_opened_of_stopped (Bool.not_eq_false _ ▸ hstopped)) (Nat.not_lt.mpr hle)
      have hnil := x.delivered l.queue
      rw [due_of_opened_le hle, hstopped] at hnil
      rw [(List.append_eq_nil_iff.mp hnil).1, List.mem_singleton.mp hl]
      rfl

/-- A listener that has heard more has the queue it had. -/
theorem map_queue_set {ls : List (Listener α)} {i : Nat} {l l' : Listener α} (hi : ls[i]? = some l)
    (hqueue : l'.queue = l.queue) : (ls.set i l').map (·.queue) = ls.map (·.queue) := by
  obtain ⟨hlt, hget⟩ := List.getElem?_eq_some_iff.mp hi
  rw [List.map_set, hqueue, ← hget]
  apply List.ext_getElem?
  intro j
  by_cases hij : i = j
  · subst hij
    simp [hlt]
  · rw [List.getElem?_set_ne hij]

/-- Every other listener has another queue. -/
theorem eq_or_mem_of_mem_set {ls : List (Listener α)} (hown : (ls.map (·.queue)).Nodup) {i : Nat}
    {k l l' : Listener α} (hi : ls[i]? = some l) (hqueue : l'.queue = l.queue)
    (hk : k ∈ ls.set i l') : k = l' ∨ k ∈ ls ∧ k.queue ≠ l.queue := by
  by_cases hkq : k.queue = l.queue
  · left
    rw [← map_queue_set hi hqueue] at hown
    have hl' : l' ∈ ls.set i l' := List.mem_set (List.getElem?_eq_some_iff.mp hi).1 l'
    exact List.inj_on_of_nodup_map hown hk hl' (hkq.trans hqueue.symm)
  · rcases List.mem_or_eq_of_mem_set hk with hk | hk
    · exact Or.inr ⟨hk, hkq⟩
    · exact Or.inl hk

theorem hear (y : Attentive capacity h) (i : Nat) : Attentive capacity (.hear i :: h) := by
  cases hi : (after capacity h).listeners[i]? with
  | none =>
    refine y.of_same ?_ (Nat.le_refl _) ?_
    · simp only [move, hi]
    · intro l _
      rw [source, hi]
      exact Option.some_ne_none _ ∘ Eq.symm
  | some l =>
    obtain ⟨hqueue, hheard⟩ := Listener.next_spec l (after capacity h).notifier
    have hlisteners : (after capacity (.hear i :: h)).listeners =
        (after capacity h).listeners.set i (Listener.next (l, (after capacity h).notifier)).1 := by
      simp only [after, move, hi]
    have hsource : (after capacity h).source (.hear i) =
        if l.ended then none else some l.queue := by
      simp only [source, hi, Option.bind_some]
    have hl : l ∈ (after capacity h).listeners := List.mem_of_getElem? hi
    generalize (Listener.next (l, (after capacity h).notifier)).1 = l' at *
    refine ⟨?_, ?_, ?_⟩
    · rw [hlisteners, map_queue_set hi hqueue]
      exact y.own
    · rw [hlisteners]
      intro k hk
      rcases eq_or_mem_of_mem_set y.own hi hqueue hk with rfl | ⟨hk, -⟩
      · exact hqueue ▸ y.opens l hl
      · exact y.opens k hk
    · rw [hlisteners]
      intro k hk
      rw [taken, hsource]
      rcases eq_or_mem_of_mem_set y.own hi hqueue hk with rfl | ⟨hk, hkq⟩
      · rw [hheard, hqueue, y.heard l hl]
        by_cases hended : l.ended = true
        · rw [if_pos hended, if_pos hended, if_neg (Option.some_ne_none _ ∘ Eq.symm)]
        · rw [if_neg hended, if_neg hended, if_pos rfl]
      · -- another listener has another queue
        rw [y.heard k hk, if_neg, List.append_nil]
        split
        · exact Option.some_ne_none _ ∘ Eq.symm
        · exact fun heq => hkq (Option.some.inj heq).symm

end Attentive

/-- **Every move keeps the listeners attentive.** -/
theorem attentive_after (capacity : Int) (h : List (Move α)) : Attentive capacity h := by
  induction h with
  | nil =>
    exact ⟨List.nodup_nil, fun l hl => absurd hl List.not_mem_nil,
      fun l hl => absurd hl List.not_mem_nil⟩
  | cons m h y =>
    have hnone : ∀ l : Listener α, (none : Option Nat) ≠ some l.queue :=
      fun l => Option.some_ne_none _ ∘ Eq.symm
    cases m with
    | start => exact y.of_same rfl (Nat.le_refl _) fun l _ => hnone l
    | stop => exact y.of_same rfl (Nat.le_refl _) fun l _ => hnone l
    | subscribe c => exact y.of_same rfl (Nat.le_succ _) fun l _ => hnone l
    | unsubscribe c r => exact y.of_same rfl (Nat.le_refl _) fun l _ => hnone l
    | publish c e => exact y.of_same rfl (Nat.le_refl _) fun l _ => hnone l
    | take q => exact y.take q
    | listen c => exact y.listen (exact_after capacity h) c
    | hear i => exact y.hear i

/-! ## The law of delivery -/

/-- **Delivery is exact and ordered**, after every run. What was taken from a queue and what still
waits in it are the events that were due to it, in their order, and behind them one stop signal when
it was subscribed at a stop. Publishing adds the event to every queue that should get it and
answers how many these are. A listener has heard what was taken from its queue, has ended with the
stop signal, and hears all that waits as one signal after another. -/
theorem delivery_exact (capacity : Int) (h : List (Move α)) :
    (∀ q, taken capacity q h ++ (after capacity h).notifier.pending q =
      (due capacity q h).map .event ++ if stopped q h then [.stop] else []) ∧
    (∀ c e,
      (∀ q, (after capacity (.publish c e :: h)).notifier.pending q =
        (after capacity h).notifier.pending q ++ if receives capacity h c q then [.event e] else [])
      ∧ ((after capacity h).notifier.publish c e).2 =
        ((List.range (opened h)).filter (receives capacity h c)).length) ∧
    (∀ l ∈ (after capacity h).listeners,
      taken capacity l.queue h = (l.heard.map .event ++ if l.ended then [.stop] else []) ∧
      l.hear (after capacity h).notifier =
        Listener.next^[((after capacity h).notifier.pending l.queue).length]
          (l, (after capacity h).notifier)) := by
  have x := exact_after capacity h
  have y := attentive_after capacity h
  refine ⟨x.delivered, fun c e => x.publish_spec c e, ?_⟩
  intro l hl
  refine ⟨y.heard l hl, ?_⟩
  obtain ⟨es, stopped, hpending⟩ := Signal.eq_ofEvents_of_append_eq (x.delivered l.queue)
  exact Listener.hear_eq_iterate_next es stopped hpending

end Roleplay.Audience
