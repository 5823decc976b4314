import Roleplay.Notifier.Basic

/-!
# Listeners

A listener subscribes to a conversation, hears the events of its queue one after another, and ends
with the stop signal.

## Main definitions

* `Listener`: a listener, with what it has heard
* `Listener.hear`: it hears what waits in its queue
* `Audience`, `Audience.settle`: a notifier with its listeners, all of them hearing
-/

namespace Roleplay

/-- **A listener**: its conversation, its queue, what it has heard, and whether it has ended. -/
structure Listener (α : Type) where
  conversation : Int
  queue : Nat
  heard : List α := []
  ended : Bool := false
deriving Repr

namespace Listener

variable {α : Type}

/-- The events before the first stop signal, and whether there is one. -/
def untilStop : List (Signal α) → List α × Bool
  | [] => ([], false)
  | .stop :: _ => ([], true)
  | .event e :: ss =>
    let (es, stopped) := untilStop ss
    (e :: es, stopped)

/-- **Hearing** what waits in the queue. A listener that has ended subscribes no longer. -/
def hear (l : Listener α) (n : Notifier α) : Listener α × Notifier α :=
  if l.ended then (l, n)
  else
    let (signals, n) := n.drain l.queue
    let (events, stopped) := untilStop signals
    ({ l with heard := l.heard ++ events, ended := stopped },
      if stopped then n.unsubscribe l.conversation l.queue else n)

end Listener

/-- **A notifier with its listeners.** -/
structure Audience (α : Type) where
  notifier : Notifier α
  listeners : List (Listener α) := []
deriving Repr

namespace Audience

variable {α : Type}

/-- A listener more. -/
def listen (a : Audience α) (conversation : Int) : Audience α :=
  let (n, q) := a.notifier.subscribe conversation
  ⟨n, a.listeners ++ [{ conversation, queue := q }]⟩

/-- **All listeners hear** what waits for them. -/
def settle (a : Audience α) : Audience α :=
  let (ls, n) := a.listeners.foldl
    (fun (ls, n) l =>
      let (l, n) := l.hear n
      (ls ++ [l], n))
    ([], a.notifier)
  ⟨n, ls⟩

end Audience

end Roleplay
