import Roleplay.Text.Basic

/-!
# The notifier

Events of a conversation go to everyone who has subscribed to it. Each subscription has a queue of
its own, known by its number; a queue that holds as many events as it may misses those that come.
Stopping puts a stop signal into every subscribed queue and ends all subscriptions.

## Main definitions

* `Signal`, `Notifier`: what a queue holds, and the state
* `Notifier.start`, `Notifier.stop`, `Notifier.subscribe`, `Notifier.unsubscribe`,
  `Notifier.publish`, `Notifier.take?`, `Notifier.drain`: the operations

## Main results

* `Notifier.publish_of_not_running`: nothing is delivered unless the notifier runs
-/

namespace Roleplay

/-- **What a queue holds**: an event, or the signal to stop. -/
inductive Signal (α : Type)
  | event (e : α)
  | stop
deriving DecidableEq, Repr

/-- **A notifier**: how many events a queue may hold, whether it runs, the queues by their
numbers, and the subscriptions in their order, each a conversation with the number of a queue. -/
structure Notifier (α : Type) where
  capacity : Int := 100
  running : Bool := false
  queues : List (List (Signal α)) := []
  subscriptions : List (Int × Nat) := []
deriving Repr

namespace Notifier

variable {α : Type}

/-- The signals in a queue. -/
def pending (n : Notifier α) (q : Nat) : List (Signal α) :=
  (n.queues[q]?).getD []

/-- The notifier with a signal more at the end of a queue. -/
def push (n : Notifier α) (q : Nat) (s : Signal α) : Notifier α :=
  { n with queues := n.queues.modify q (· ++ [s]) }

/-- The queues that are subscribed to a conversation, in the order of subscribing. -/
def subscribed (n : Notifier α) (conversation : Int) : List Nat :=
  (n.subscriptions.filter (·.1 = conversation)).map (·.2)

/-- Whether a queue may take another event. -/
def hasRoom (n : Notifier α) (q : Nat) : Bool :=
  (n.pending q).length < n.capacity

/-- **Starting.** -/
def start (n : Notifier α) : Notifier α :=
  { n with running := true }

/-- **Stopping**: every subscribed queue gets the stop signal, and no subscription is left. -/
def stop (n : Notifier α) : Notifier α :=
  let signalled := n.subscriptions.foldl (fun n s => n.push s.2 .stop) n
  { signalled with running := false, subscriptions := [] }

/-- **Subscribing** to a conversation, with a new queue, whose number is given. -/
def subscribe (n : Notifier α) (conversation : Int) : Notifier α × Nat :=
  let q := n.queues.length
  ({ n with
      queues := n.queues ++ [[]]
      subscriptions := n.subscriptions ++ [(conversation, q)] }, q)

/-- **Ending a subscription**; without it nothing changes. -/
def unsubscribe (n : Notifier α) (conversation : Int) (q : Nat) : Notifier α :=
  { n with subscriptions := n.subscriptions.erase (conversation, q) }

/-- An event put into the queues that have room, and how many these are. -/
def deliver (e : α) : List Nat → Notifier α → Notifier α × Nat
  | [], n => (n, 0)
  | q :: qs, n =>
    if n.hasRoom q then
      let (n, k) := deliver e qs (n.push q (.event e))
      (n, k + 1)
    else deliver e qs n

/-- **Publishing an event** of a conversation, and how many queues got it. -/
def publish (n : Notifier α) (conversation : Int) (e : α) : Notifier α × Nat :=
  if n.running then deliver e (n.subscribed conversation) n else (n, 0)

/-- Nothing is delivered unless the notifier runs. -/
theorem publish_of_not_running {n : Notifier α} (h : n.running = false) (c : Int) (e : α) :
    n.publish c e = (n, 0) := by
  simp [publish, h]

/-- **Taking** the first signal of a queue. -/
def take? (n : Notifier α) (q : Nat) : Option (Signal α) × Notifier α :=
  match n.pending q with
  | [] => (none, n)
  | s :: _ => (some s, { n with queues := n.queues.modify q (·.drop 1) })

/-- Taking all signals of a queue. -/
def drain (n : Notifier α) (q : Nat) : List (Signal α) × Notifier α :=
  (n.pending q, { n with queues := n.queues.modify q fun _ => [] })

end Notifier

end Roleplay
