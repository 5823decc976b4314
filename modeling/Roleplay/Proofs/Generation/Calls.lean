import Roleplay.Generation.Assembly

/-!
# The calls of a trace

What a trace asks for is read off the list of its calls: the requests to the gateway, the responses
that are logged, and whether it only prepares a request. A trace that is continued makes the calls
of its first part and, unless that fails, those of the second.

## Main definitions

* `Call.prepares`, `Call.isLog`: the kinds of calls beside requests
* `Trace.requests`, `Trace.responses`: what is sent to the gateway, and what is logged of answers
* `Trace.Only`: traces all of whose calls are of one kind

## Main results

* `Trace.Only.bind`, `Trace.Only.together`: the calls of traces that are put together
* `only_gatherBrief`, `only_finish`: what precedes a prompt only prepares it
* `exists_outcome_logPrompt`, `outcome_logResponse`: no log ends a generation
-/

namespace Roleplay

namespace Call

/-- The request that a call sends. -/
def request? : Call → Option Request
  | request r => some r
  | _ => none

/-- The response that a call logs. -/
def response? : Call → Option ResponseEntry
  | logResponse _ r => some r
  | _ => none

/-- Whether a call prepares a request: something is looked up, or the prompt is logged. -/
def prepares : Call → Bool
  | addressee _ | world _ | lore _ _ _ | logPrompt _ => true
  | _ => false

/-- Whether a call is one to the log. -/
def isLog : Call → Bool
  | logPrompt _ | logResponse _ _ => true
  | _ => false

theorem request?_of_prepares {c : Call} (h : c.prepares = true) : c.request? = none := by
  cases c <;> first | rfl | cases h

theorem response?_of_prepares {c : Call} (h : c.prepares = true) : c.response? = none := by
  cases c <;> first | rfl | cases h

theorem request?_of_isLog {c : Call} (h : c.isLog = true) : c.request? = none := by
  cases c <;> first | rfl | cases h

end Call

namespace Trace

variable {α β : Type} {p : Call → Prop}

/-- **The requests** that a trace sends to the gateway, in their order. -/
def requests (t : Trace α) : List Request :=
  t.calls.filterMap Call.request?

/-- **The responses** that a trace has logged, in their order. -/
def responses (t : Trace α) : List ResponseEntry :=
  t.calls.filterMap Call.response?

/-- **Traces all of whose calls are of one kind.** -/
def Only (p : Call → Prop) (t : Trace α) : Prop :=
  ∀ c ∈ t.calls, p c

@[simp] theorem only_pure (a : α) : (pure a : Trace α).Only p :=
  fun _ hc => absurd hc List.not_mem_nil

@[simp] theorem only_ofExcept (r : Except Failure α) : (ofExcept r).Only p :=
  fun _ hc => absurd hc List.not_mem_nil

@[simp] theorem only_call {c : Call} {r : Except Failure α} : (call c r).Only p ↔ p c :=
  List.forall_mem_singleton

@[simp] theorem only_attempt {c : Call} {r : Option α} : (attempt c r).Only p ↔ p c :=
  only_call

/-- A trace that goes on makes the calls of both parts. -/
theorem Only.bind {t : Trace α} {f : α → Trace β} (h : t.Only p) (hf : ∀ a, (f a).Only p) :
    (t >>= f).Only p := by
  cases ht : t.outcome with
  | error e =>
    rw [Only, calls_bind_error ht]
    exact h
  | ok a =>
    rw [Only, calls_bind_ok ht]
    exact fun c hc => (List.mem_append.mp hc).elim (h c) (hf a c)

theorem Only.mono {q : Call → Prop} {t : Trace α} (h : t.Only p) (hpq : ∀ c, p c → q c) :
    t.Only q :=
  fun c hc => hpq c (h c hc)

theorem Only.together {t : Trace α} {u : Trace β} (ht : t.Only p) (hu : u.Only p) :
    (t.together u).Only p :=
  fun c hc => (List.mem_append.mp hc).elim (ht c) (hu c)

theorem outcome_together {t : Trace α} {u : Trace β} {a : α} {b : β} (ht : t.outcome = .ok a)
    (hu : u.outcome = .ok b) : (t.together u).outcome = .ok (a, b) := by
  rw [Trace.together, ht, hu]
  rfl

theorem requests_of_only {t : Trace α} (h : t.Only p) (hp : ∀ c, p c → c.request? = none) :
    t.requests = [] :=
  List.filterMap_eq_nil_iff.mpr fun c hc => hp c (h c hc)

theorem responses_of_only {t : Trace α} (h : t.Only p) (hp : ∀ c, p c → c.response? = none) :
    t.responses = [] :=
  List.filterMap_eq_nil_iff.mpr fun c hc => hp c (h c hc)

theorem requests_bind_ok {t : Trace α} {f : α → Trace β} {a : α} (h : t.outcome = .ok a) :
    (t >>= f).requests = t.requests ++ (f a).requests := by
  rw [requests, calls_bind_ok h, List.filterMap_append]
  rfl

theorem responses_bind_ok {t : Trace α} {f : α → Trace β} {a : α} (h : t.outcome = .ok a) :
    (t >>= f).responses = t.responses ++ (f a).responses := by
  rw [responses, calls_bind_ok h, List.filterMap_append]
  rfl

end Trace

/-! ## The parts of a generation -/

section Parts

variable {c : Collaborators}

theorem only_askAddressee (c : Collaborators) (user : Option Int) :
    (c.askAddressee user).Only (·.prepares = true) := by
  simp [Collaborators.askAddressee, Call.prepares]

theorem only_askWorld (c : Collaborators) (conversation : Option Int) :
    (c.askWorld conversation).Only (·.prepares = true) := by
  unfold Collaborators.askWorld
  split
  · exact Trace.only_pure _
  · split <;> simp [Call.prepares]

theorem only_askLore (c : Collaborators) (user : Option Int) (character : Int)
    (turns : List Text) : (c.askLore user character turns).Only (·.prepares = true) := by
  unfold Collaborators.askLore
  split <;> simp [Call.prepares]

theorem only_logPrompt (c : Collaborators) (entry : PromptEntry) :
    (c.logPrompt entry).Only fun call => call.isLog = true ∧ call.prepares = true := by
  unfold Collaborators.logPrompt
  split <;> simp [Call.isLog, Call.prepares]

theorem only_logResponse (c : Collaborators) (id : Option Text) (entry : ResponseEntry) :
    (c.logResponse id entry).Only (·.isLog = true) := by
  unfold Collaborators.logResponse
  split
  · exact Trace.Only.bind (by simp [Call.isLog]) fun _ => Trace.only_pure _
  · exact Trace.only_pure _

/-- A log gives an id or none, and never fails a generation. -/
theorem exists_outcome_logPrompt (c : Collaborators) (entry : PromptEntry) :
    ∃ id, (c.logPrompt entry).outcome = .ok id := by
  unfold Collaborators.logPrompt
  split <;> exact ⟨_, rfl⟩

theorem outcome_logResponse (c : Collaborators) (id : Option Text) (entry : ResponseEntry) :
    (c.logResponse id entry).outcome = .ok () := by
  unfold Collaborators.logResponse
  split <;> rfl

/-- A card that can be read is the first thing that a generation gets. -/
theorem outcome_profile {character : Character} {scenario : Option Text} {profile : Profile}
    (hprofile : character.profile scenario = .ok profile) :
    (Trace.ofExcept ((character.profile scenario).mapError Failure.card)).outcome =
      .ok profile := by
  rw [hprofile]
  rfl

/-- **What is gathered** for a template prepares a request. -/
theorem only_gatherBrief {character : Character} {settings : Settings}
    {template : Except Failure Text} {conversation user : Option Int} {scenario : Option Text} :
    (gatherBrief c character settings template conversation user scenario).Only
      (·.prepares = true) := by
  unfold gatherBrief
  refine (Trace.only_ofExcept _).bind fun profile => ?_
  refine Trace.Only.bind ?_ fun found => Trace.only_pure _
  exact (only_askAddressee c _).together ((Trace.only_ofExcept _).together
    ((only_askWorld c conversation).together (Trace.only_ofExcept _)))

/-- **What is put behind** a rendered template does so as well. -/
theorem only_finish {extras : Extras} {b : Brief} {rendered : Text} {history : List Message} :
    (finish c extras b rendered history).Only (·.prepares = true) := by
  unfold finish
  dsimp only
  split
  · exact (only_askLore c _ _ _).bind fun _ => Trace.only_pure _
  · exact (Trace.only_pure _).bind fun _ => Trace.only_pure _

end Parts

end Roleplay
