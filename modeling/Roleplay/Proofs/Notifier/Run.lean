import Mathlib.Data.List.Nodup
import Mathlib.Logic.Function.Iterate
import Roleplay.Notifier.Listener

/-!
# Runs of a notifier

A notifier with its listeners is used by many at once: some subscribe and publish, some take what
waits for them, some start and stop it. Every such use is a run of moves one after another, in any
order. Whether the notifier runs, and to which conversation a queue is subscribed, are read off the
moves alone.

## Main definitions

* `Signal.ofEvents`: the signals of some events, with the stop signal behind them or without it
* `Listener.next`: a listener hears one signal
* `Audience.Move`, `Audience.move`: what can be done, and what it changes
* `Audience.after`, `Audience.taken`: the state after a run, and what was taken from a queue in it
* `Audience.isRunning`, `Audience.opened`, `Audience.subscription`: what the moves of a run say

## Main results

* `Notifier.deliver_spec`, `Notifier.pending_stop`, `Notifier.pending_take`: what waits in a
  queue after each change
* `Listener.next_spec`: what hearing one signal adds to what was heard
* `Listener.hear_eq_iterate_next`: hearing all that waits is hearing one signal after another
-/

namespace Roleplay

/-- **The signals of some events**, with the stop signal behind them when it was given. -/
def Signal.ofEvents {α : Type} (es : List α) (stopped : Bool) : List (Signal α) :=
  es.map .event ++ if stopped then [.stop] else []

/-- What follows in such signals are such signals. -/
theorem Signal.eq_ofEvents_of_append_eq {α : Type} {ss ts : List (Signal α)} {es : List α}
    {stopped : Bool} (h : ss ++ ts = Signal.ofEvents es stopped) :
    ∃ es' stopped', ts = Signal.ofEvents es' stopped' := by
  induction ss generalizing es with
  | nil => exact ⟨es, stopped, h⟩
  | cons s ss ih =>
    cases es with
    | nil =>
      -- at most the stop signal is there, and it is `s`
      refine ⟨[], false, ?_⟩
      cases stopped with
      | false => cases h
      | true => exact (List.append_eq_nil_iff.mp (List.cons.inj h).2).2
    | cons e es => exact ih (List.cons.inj h).2

namespace Notifier

variable {α : Type}

/-! ## One queue changed -/

/-- A notifier with one queue changed. -/
def mapQueue (n : Notifier α) (q : Nat) (f : List (Signal α) → List (Signal α)) : Notifier α :=
  { n with queues := n.queues.modify q f }

@[simp] theorem length_queues_mapQueue (n : Notifier α) (q : Nat)
    (f : List (Signal α) → List (Signal α)) : (n.mapQueue q f).queues.length = n.queues.length :=
  List.length_modify _ _ _

/-- A queue that is not there holds nothing, before and after a change. -/
theorem pending_mapQueue (n : Notifier α) {q : Nat} {f : List (Signal α) → List (Signal α)}
    (hf : f [] = [] ∨ q < n.queues.length) (r : Nat) :
    (n.mapQueue q f).pending r = if q = r then f (n.pending r) else n.pending r := by
  simp only [mapQueue, pending, List.getElem?_modify]
  by_cases hqr : q = r
  · subst hqr
    by_cases hq : q < n.queues.length
    · simp [List.getElem?_eq_getElem hq]
    · have hnone : n.queues[q]? = none := List.getElem?_eq_none (Nat.le_of_not_lt hq)
      simp [hnone, hf.resolve_right hq]
  · simp [hqr]

theorem mapQueue_mapQueue (n : Notifier α) (q : Nat) (f g : List (Signal α) → List (Signal α)) :
    (n.mapQueue q f).mapQueue q g = n.mapQueue q (g ∘ f) := by
  simp only [mapQueue, List.modify_modify_eq]

/-- A change depends on what waits in the queue only. -/
theorem mapQueue_congr {n : Notifier α} {q : Nat} {f g : List (Signal α) → List (Signal α)}
    (h : f (n.pending q) = g (n.pending q)) : n.mapQueue q f = n.mapQueue q g := by
  have hqueues : n.queues.modify q f = n.queues.modify q g := by
    apply List.ext_getElem?
    intro r
    rw [List.getElem?_modify, List.getElem?_modify]
    by_cases hqr : q = r
    · subst hqr
      rw [pending] at h
      cases hq : n.queues[q]? with
      | none => rfl
      | some ss =>
        rw [hq] at h
        simpa using h
    · simp [hqr]
  simp only [mapQueue, hqueues]

theorem mapQueue_id (n : Notifier α) (q : Nat) : n.mapQueue q id = n := by
  simp only [mapQueue, List.modify_id]

theorem pending_push {n : Notifier α} {q : Nat} (hq : q < n.queues.length) (s : Signal α)
    (r : Nat) :
    (n.push q s).pending r = if q = r then n.pending r ++ [s] else n.pending r :=
  pending_mapQueue n (f := (· ++ [s])) (Or.inr hq) r

@[simp] theorem length_queues_push (n : Notifier α) (q : Nat) (s : Signal α) :
    (n.push q s).queues.length = n.queues.length :=
  List.length_modify _ _ _

theorem pending_subscribe (n : Notifier α) (c : Int) (q : Nat) :
    (n.subscribe c).1.pending q = n.pending q := by
  simp only [subscribe, pending]
  by_cases hq : q < n.queues.length
  · rw [List.getElem?_append_left hq]
  · -- the new queue is empty, and so is one that is not there
    have hq : n.queues.length ≤ q := Nat.le_of_not_lt hq
    rw [List.getElem?_append_right hq, List.getElem?_eq_none hq]
    cases q - n.queues.length <;> rfl

/-! ## Taking -/

theorem take_of_nil {n : Notifier α} {q : Nat} (h : n.pending q = []) : n.take? q = (none, n) := by
  rw [take?, h]

theorem take_of_cons {n : Notifier α} {q : Nat} {s : Signal α} {ss : List (Signal α)}
    (h : n.pending q = s :: ss) : n.take? q = (some s, n.mapQueue q (·.drop 1)) := by
  rw [take?, h]
  rfl

/-- **What is left** when the first signal is taken. -/
theorem pending_take (n : Notifier α) (q r : Nat) :
    (n.take? q).2.pending r = if q = r then (n.pending r).drop 1 else n.pending r := by
  cases h : n.pending q with
  | nil =>
    rw [take_of_nil h]
    by_cases hqr : q = r
    · rw [if_pos hqr, ← hqr, h]
      rfl
    · rw [if_neg hqr]
  | cons s ss =>
    rw [take_of_cons h]
    exact pending_mapQueue n (Or.inl rfl) r

/-- Taking changes nothing but the queues, and none is lost. -/
theorem take_frame (n : Notifier α) (q : Nat) :
    (n.take? q).2 = { n with queues := (n.take? q).2.queues } ∧
      (n.take? q).2.queues.length = n.queues.length := by
  cases h : n.pending q with
  | nil =>
    rw [take_of_nil h]
    exact ⟨rfl, rfl⟩
  | cons s ss =>
    rw [take_of_cons h]
    exact ⟨rfl, length_queues_mapQueue n q _⟩

/-! ## Publishing -/

/-- Delivering changes nothing but the queues, and none is lost. -/
theorem deliver_frame (e : α) (qs : List Nat) (n : Notifier α) :
    (deliver e qs n).1 = { n with queues := (deliver e qs n).1.queues } ∧
      (deliver e qs n).1.queues.length = n.queues.length := by
  induction qs generalizing n with
  | nil => exact ⟨rfl, rfl⟩
  | cons q qs ih =>
    rw [deliver]
    split
    · obtain ⟨hframe, hlength⟩ := ih (n.push q (.event e))
      refine ⟨?_, hlength.trans (length_queues_push n q _)⟩
      dsimp only
      rw [hframe]
      rfl
    · exact ih n

theorem hasRoom_push {n : Notifier α} {q r : Nat} (hq : q < n.queues.length) (hqr : q ≠ r)
    (s : Signal α) : (n.push q s).hasRoom r = n.hasRoom r := by
  rw [hasRoom, pending_push hq, if_neg hqr]
  rfl

/-- **What is delivered**: every queue that has room gets the event once, and is counted once. -/
theorem deliver_spec (e : α) {qs : List Nat} {n : Notifier α} (hnodup : qs.Nodup)
    (hqs : ∀ q ∈ qs, q < n.queues.length) :
    (∀ r, (deliver e qs n).1.pending r =
        n.pending r ++ if r ∈ qs ∧ n.hasRoom r = true then [.event e] else []) ∧
      (deliver e qs n).2 = (qs.filter n.hasRoom).length := by
  induction qs generalizing n with
  | nil => simp [deliver]
  | cons q qs ih =>
    obtain ⟨hq, hnodup⟩ := List.nodup_cons.mp hnodup
    have hlt : q < n.queues.length := hqs q List.mem_cons_self
    have htail : ∀ r ∈ qs, r < n.queues.length := fun r hr => hqs r (List.mem_cons_of_mem q hr)
    rw [deliver]
    by_cases hroom : n.hasRoom q = true
    · obtain ⟨hpending, hcount⟩ := ih (n := n.push q (.event e)) hnodup
        fun r hr => (length_queues_push n q _).symm ▸ htail r hr
      rw [if_pos hroom]
      dsimp only
      constructor
      · intro r
        rw [hpending, pending_push hlt]
        by_cases hqr : q = r
        · -- `r` has its event, and is not among the other queues
          subst hqr
          simp [hq, hroom]
        · have hrq : r ≠ q := Ne.symm hqr
          rw [if_neg hqr, hasRoom_push hlt hqr]
          simp [hrq]
      · have hsame : qs.filter (n.push q (.event e)).hasRoom = qs.filter n.hasRoom := by
          apply List.filter_congr
          intro r hr
          exact hasRoom_push hlt (fun h => hq (h ▸ hr)) _
        rw [hcount, hsame, List.filter_cons_of_pos hroom, List.length_cons]
    · obtain ⟨hpending, hcount⟩ := ih hnodup htail
      rw [if_neg hroom]
      constructor
      · intro r
        rw [hpending]
        by_cases hqr : q = r
        · subst hqr
          simp [hq, hroom]
        · have hrq : r ≠ q := Ne.symm hqr
          simp [hrq]
      · rw [hcount, List.filter_cons_of_neg hroom]

/-- Publishing changes nothing but the queues, and none is lost. -/
theorem publish_frame (n : Notifier α) (c : Int) (e : α) :
    (n.publish c e).1 = { n with queues := (n.publish c e).1.queues } ∧
      (n.publish c e).1.queues.length = n.queues.length := by
  rw [publish]
  split
  · exact deliver_frame e _ n
  · exact ⟨rfl, rfl⟩

/-! ## Stopping -/

/-- The stop signal pushed into the queues of some subscriptions. -/
def signal (n : Notifier α) (subscriptions : List (Int × Nat)) : Notifier α :=
  subscriptions.foldl (fun n s => n.push s.2 .stop) n

/-- Signalling changes nothing but the queues, and none is lost. -/
theorem signal_frame (n : Notifier α) (subs : List (Int × Nat)) :
    n.signal subs = { n with queues := (n.signal subs).queues } ∧
      (n.signal subs).queues.length = n.queues.length := by
  induction subs generalizing n with
  | nil => exact ⟨rfl, rfl⟩
  | cons s subs ih =>
    obtain ⟨hframe, hlength⟩ := ih (n.push s.2 .stop)
    refine ⟨?_, hlength.trans (length_queues_push n s.2 _)⟩
    show (n.push s.2 .stop).signal subs = _
    rw [hframe]
    rfl

theorem pending_signal {n : Notifier α} {subs : List (Int × Nat)}
    (hnodup : (subs.map (·.2)).Nodup) (hsubs : ∀ s ∈ subs, s.2 < n.queues.length) (r : Nat) :
    (n.signal subs).pending r =
      n.pending r ++ if r ∈ subs.map (·.2) then [.stop] else [] := by
  induction subs generalizing n with
  | nil => simp [signal]
  | cons s subs ih =>
    rw [List.map_cons] at hnodup
    obtain ⟨hs, hnodup⟩ := List.nodup_cons.mp hnodup
    have hlt : s.2 < n.queues.length := hsubs s List.mem_cons_self
    have hsubs' : ∀ s' ∈ subs, s'.2 < (n.push s.2 .stop).queues.length := by
      intro s' hs'
      rw [length_queues_push]
      exact hsubs s' (List.mem_cons_of_mem s hs')
    show ((n.push s.2 .stop).signal subs).pending r = _
    rw [ih hnodup hsubs', pending_push hlt, List.map_cons]
    by_cases hr : s.2 = r
    · -- `r` has its signal, and is subscribed only once
      subst hr
      simp only [if_neg hs, if_pos List.mem_cons_self, List.append_nil, if_true]
    · have hr' : r ≠ s.2 := Ne.symm hr
      simp only [if_neg hr, List.mem_cons, hr', false_or]

/-- **What stopping puts into a queue**: one signal, when it is subscribed. -/
theorem pending_stop {n : Notifier α} (hnodup : (n.subscriptions.map (·.2)).Nodup)
    (hsubs : ∀ s ∈ n.subscriptions, s.2 < n.queues.length) (r : Nat) :
    n.stop.pending r =
      n.pending r ++ if r ∈ n.subscriptions.map (·.2) then [.stop] else [] :=
  pending_signal hnodup hsubs r

end Notifier

/-! ## Hearing one signal -/

namespace Listener

variable {α : Type}

/-- **Hearing one signal**: an event is told, and the stop signal ends the listener. -/
def next (p : Listener α × Notifier α) : Listener α × Notifier α :=
  if p.1.ended then p
  else match p.2.take? p.1.queue with
    | (none, _) => p
    | (some (.event e), n) => ({ p.1 with heard := p.1.heard ++ [e] }, n)
    | (some .stop, n) => ({ p.1 with ended := true }, n.unsubscribe p.1.conversation p.1.queue)

/-- **What hearing one signal adds** to what was heard. -/
theorem next_spec (l : Listener α) (n : Notifier α) :
    (next (l, n)).1.queue = l.queue ∧
      Signal.ofEvents (next (l, n)).1.heard (next (l, n)).1.ended =
        Signal.ofEvents l.heard l.ended ++
          if l.ended then [] else (n.pending l.queue).take 1 := by
  rw [next]
  by_cases hl : l.ended = true
  · simp only [if_pos hl, List.append_nil, and_self]
  simp only [if_neg hl]
  have hended : l.ended = false := Bool.eq_false_iff.mpr hl
  cases h : n.pending l.queue with
  | nil => simp [Notifier.take_of_nil h]
  | cons s ss =>
    cases s with
    | event e => simp [Notifier.take_of_cons h, Signal.ofEvents, hended]
    | stop => simp [Notifier.take_of_cons h, Signal.ofEvents, hended]

theorem untilStop_ofEvents (es : List α) (stopped : Bool) :
    untilStop (Signal.ofEvents es stopped) = (es, stopped) := by
  induction es with
  | nil => cases stopped <;> rfl
  | cons e es ih =>
    show untilStop (.event e :: Signal.ofEvents es stopped) = _
    rw [untilStop, ih]

/-- **Hearing all that waits** is hearing one signal after another, when nothing waits behind a
stop signal. -/
theorem hear_eq_iterate_next (es : List α) (stopped : Bool) {l : Listener α} {n : Notifier α}
    (h : n.pending l.queue = Signal.ofEvents es stopped) :
    l.hear n = next^[(n.pending l.queue).length] (l, n) := by
  by_cases hl : l.ended = true
  · rw [hear, if_pos hl, Function.iterate_fixed (show next (l, n) = (l, n) from if_pos hl)]
  have hear_eq : l.hear n = ({ l with heard := l.heard ++ es, ended := stopped },
      if stopped then (n.mapQueue l.queue fun _ => []).unsubscribe l.conversation l.queue
      else n.mapQueue l.queue fun _ => []) := by
    rw [hear, if_neg hl]
    simp only [Notifier.drain, h, untilStop_ofEvents]
    rfl
  rw [hear_eq, h]
  clear hear_eq
  -- on the events that wait, each of which is heard in its turn
  induction es generalizing l n with
  | nil =>
    have hended : l.ended = false := Bool.eq_false_iff.mpr hl
    cases stopped with
    | false =>
      have hn : (n.mapQueue l.queue fun _ => []) = n :=
        (Notifier.mapQueue_congr (g := id) h.symm).trans (n.mapQueue_id l.queue)
      obtain ⟨c, q, heard, ended⟩ := l
      simp only at hended
      simp [Signal.ofEvents, hn, hended]
    | true =>
      have htake : n.take? l.queue = (some .stop, n.mapQueue l.queue (·.drop 1)) :=
        Notifier.take_of_cons h
      have hdrop : n.mapQueue l.queue (·.drop 1) = n.mapQueue l.queue fun _ => [] :=
        Notifier.mapQueue_congr (by rw [h]; rfl)
      show _ = next (l, n)
      rw [next, if_neg hl]
      simp only [htake, hdrop, List.append_nil, if_true]
  | cons e es ih =>
    have htake : n.take? l.queue = (some (.event e), n.mapQueue l.queue (·.drop 1)) :=
      Notifier.take_of_cons h
    have hnext : next (l, n) =
        ({ l with heard := l.heard ++ [e] }, n.mapQueue l.queue (·.drop 1)) := by
      rw [next, if_neg hl]
      simp only [htake]
    have hpending : (n.mapQueue l.queue (·.drop 1)).pending l.queue =
        Signal.ofEvents es stopped := by
      rw [Notifier.pending_mapQueue n (Or.inl rfl), if_pos rfl, h]
      rfl
    show _ = next^[(Signal.ofEvents es stopped).length + 1] (l, n)
    rw [Function.iterate_succ_apply, hnext,
      ← ih (l := { l with heard := l.heard ++ [e] }) hpending hl]
    simp only [List.append_assoc, List.singleton_append, Notifier.mapQueue_mapQueue]
    rfl

end Listener

/-! ## Moves -/

namespace Audience

variable {α : Type}

/-- **What is done** to a notifier with its listeners. -/
inductive Move (α : Type)
  | start
  | stop
  | subscribe (conversation : Int)
  | unsubscribe (conversation : Int) (queue : Nat)
  | publish (conversation : Int) (e : α)
  | take (queue : Nat)
  | listen (conversation : Int)
  | hear (listener : Nat)

/-- Whether a queue is that of a listener, from which nobody else takes. -/
def isHeard (a : Audience α) (q : Nat) : Bool :=
  a.listeners.any (·.queue = q)

/-- **A move**: what it changes. -/
def move (a : Audience α) : Move α → Audience α
  | .start => { a with notifier := a.notifier.start }
  | .stop => { a with notifier := a.notifier.stop }
  | .subscribe c => { a with notifier := (a.notifier.subscribe c).1 }
  | .unsubscribe c q => { a with notifier := a.notifier.unsubscribe c q }
  | .publish c e => { a with notifier := (a.notifier.publish c e).1 }
  | .take q => if a.isHeard q then a else { a with notifier := (a.notifier.take? q).2 }
  | .listen c => a.listen c
  | .hear i =>
    match a.listeners[i]? with
    | none => a
    | some l =>
      let (l, n) := Listener.next (l, a.notifier)
      ⟨n, a.listeners.set i l⟩

/-- The queue from which a move takes a signal. -/
def source (a : Audience α) : Move α → Option Nat
  | .take q => if a.isHeard q then none else some q
  | .hear i => (a.listeners[i]?).bind fun l => if l.ended then none else some l.queue
  | _ => none

/-! ## Runs

A run is the list of its moves, the latest first. -/

/-- **The state after a run** of a new notifier. -/
def after (capacity : Int) : List (Move α) → Audience α
  | [] => { notifier := { capacity } }
  | m :: h => (after capacity h).move m

/-- **What was taken from a queue** in a run. -/
def taken (capacity : Int) (q : Nat) : List (Move α) → List (Signal α)
  | [] => []
  | m :: h =>
    taken capacity q h ++
      if (after capacity h).source m = some q then ((after capacity h).notifier.pending q).take 1
      else []

/-- **Whether the notifier runs**: it was started, and not stopped since. -/
def isRunning : List (Move α) → Bool
  | [] => false
  | .start :: _ => true
  | .stop :: _ => false
  | _ :: h => isRunning h

/-- The number of queues that were opened. The queue that is opened next has it as its number. -/
def opened : List (Move α) → Nat
  | [] => 0
  | .subscribe _ :: h | .listen _ :: h => opened h + 1
  | _ :: h => opened h

/-- **The conversation to which a queue is subscribed**: that for which it was opened, unless it
was unsubscribed or the notifier was stopped since. -/
def subscription (q : Nat) : List (Move α) → Option Int
  | [] => none
  | .subscribe c :: h | .listen c :: h => if opened h = q then some c else subscription q h
  | .unsubscribe c r :: h =>
    if r = q ∧ subscription q h = some c then none else subscription q h
  | .stop :: _ => none
  | _ :: h => subscription q h

/-- Only a queue that was opened is subscribed. -/
theorem lt_opened_of_subscription {q : Nat} {c : Int} {h : List (Move α)}
    (hq : subscription q h = some c) : q < opened h := by
  induction h with
  | nil => cases hq
  | cons m h ih =>
    cases m with
    | subscribe d =>
      rw [subscription] at hq
      split at hq
      · next heq => exact heq ▸ Nat.lt_succ_self _
      · exact Nat.lt_succ_of_lt (ih hq)
    | listen d =>
      rw [subscription] at hq
      split at hq
      · next heq => exact heq ▸ Nat.lt_succ_self _
      · exact Nat.lt_succ_of_lt (ih hq)
    | unsubscribe d r =>
      rw [subscription] at hq
      split at hq
      · cases hq
      · exact ih hq
    | stop => cases hq
    | start => exact ih hq
    | publish d e => exact ih hq
    | take r => exact ih hq
    | hear i => exact ih hq

end Audience

end Roleplay
