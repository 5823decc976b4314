import Roleplay.Completion
import Roleplay.PromptLog

/-!
# Traces

A generation asks others for what it needs: whom it speaks to, what is known of the world and its
lore, an answer of the model; and it has its prompt and the response logged. Its trace is the list
of these calls with the outcome, so that a law about what is asked, how often and in which order is
a law about a list.

## Main definitions

* `Call`: what is asked of others
* `Trace`: the calls and the outcome
* `Trace.attempt`: a call whose failure is passed over
* `Trace.together`: two parts of which both are asked for, whatever comes of the other

## Main results

* `Trace.calls_bind_ok`, `Trace.calls_bind_error`: the calls of a continued trace
* `Trace.outcome_bind_ok`, `Trace.outcome_bind_error`: its outcome
-/

namespace Roleplay

/-- **What is asked of others.** -/
inductive Call
  | addressee (user : Option Int)
  | world (conversation : Option Int)
  | lore (user : Option Int) (character : Int) (turns : List Text)
  | logPrompt (entry : PromptEntry)
  | request (r : Request)
  | logResponse (id : Text) (entry : ResponseEntry)
  | keepWorld (conversation : Option Int) (state : WorldState)
deriving Repr

/-- **The calls that are made, and what comes of them.** -/
structure Trace (α : Type) where
  calls : List Call
  outcome : Except Failure α

namespace Trace

variable {α β : Type}

/-- Nothing is asked, and the outcome is there. -/
def ofExcept (r : Except Failure α) : Trace α :=
  ⟨[], r⟩

/-- One call, and what comes of it. -/
def call (c : Call) (r : Except Failure α) : Trace α :=
  ⟨[c], r⟩

/-- One call that may fail; the failure is passed over. -/
def attempt (c : Call) (r : Option α) : Trace (Option α) :=
  call c (.ok r)

/-- A trace continued by what follows from its outcome; a failure ends it. -/
def andThen (t : Trace α) (f : α → Trace β) : Trace β :=
  match t.outcome with
  | .ok a => ⟨t.calls ++ (f a).calls, (f a).outcome⟩
  | .error e => ⟨t.calls, .error e⟩

instance : Monad Trace where
  pure a := ⟨[], .ok a⟩
  bind := andThen

/-- The calls of a trace that goes on. -/
theorem calls_bind_ok {t : Trace α} {f : α → Trace β} {a : α} (h : t.outcome = .ok a) :
    (t >>= f).calls = t.calls ++ (f a).calls := by
  simp [bind, andThen, h]

/-- The calls of a trace that fails. -/
theorem calls_bind_error {t : Trace α} {f : α → Trace β} {e : Failure} (h : t.outcome = .error e) :
    (t >>= f).calls = t.calls := by
  simp [bind, andThen, h]

/-- The outcome of a trace that goes on. -/
theorem outcome_bind_ok {t : Trace α} {f : α → Trace β} {a : α} (h : t.outcome = .ok a) :
    (t >>= f).outcome = (f a).outcome := by
  simp [bind, andThen, h]

/-- The outcome of a trace that fails. -/
theorem outcome_bind_error {t : Trace α} {f : α → Trace β} {e : Failure}
    (h : t.outcome = .error e) : (t >>= f).outcome = .error e := by
  simp [bind, andThen, h]

/-- **Two parts asked for together**: the calls of both are made, and of two failures the first
counts. -/
def together (t : Trace α) (u : Trace β) : Trace (α × β) :=
  ⟨t.calls ++ u.calls, do return (← t.outcome, ← u.outcome)⟩

end Trace

end Roleplay
