import Roleplay.Proofs.Generation.Speech
import Roleplay.Generation.WorldState

/-!
# The log and what is generated

Prompts and responses are logged in two places: where a speech is sent, and where a state of the
world is asked for. In both the log may be missing, may refuse a prompt or a response, and its id
goes from the one to the other. None of it reaches the gateway or the result.

Two generations that have different logs are compared part by part. Of each part it is said which of
their results belong together: any two ids do, as do equal results of anything else. Parts that
agree are put together into generations that agree.

## Main definitions

* `Log`, `Collaborators.withLog`: what a log makes of prompts and of responses
* `Trace.Agree`: traces with the same calls, those to the log apart, and related results
* `Generation`, `Generation.run`: everything that is generated
* `Series.run`: generations one after another, each chosen by what came of those before

## Main results

* `Trace.Agree.bind`: parts that agree are put together
* `generation_of_log`: no log changes the requests or the outcome of a generation, or of a series
-/

namespace Roleplay

/-- **A log**: what it makes of a prompt, if there is a log at all, and of a response. -/
structure Log where
  prompt : Option (PromptEntry → Option Text) := none
  response : Text → ResponseEntry → Option Unit := fun _ _ => some ()

/-- Collaborators whose log is another one. -/
def Collaborators.withLog (c : Collaborators) (l : Log) : Collaborators :=
  { c with log := l.prompt, keepResponse := l.response }

/-! ## Traces that agree but for the log -/

namespace Trace

variable {α β γ δ : Type}

/-- The calls of a trace to others than the log, in their order. -/
def unlogged (t : Trace α) : List Call :=
  t.calls.filter (!·.isLog)

/-- **Traces that agree but for the log**: the same calls to all others, and either the same failure
or results that are related. -/
structure Agree (R : α → β → Prop) (t : Trace α) (u : Trace β) : Prop where
  unlogged : t.unlogged = u.unlogged
  outcome : (∃ e, t.outcome = .error e ∧ u.outcome = .error e) ∨
    ∃ a b, t.outcome = .ok a ∧ u.outcome = .ok b ∧ R a b

theorem Agree.refl (t : Trace α) : t.Agree Eq t where
  unlogged := rfl
  outcome := by
    cases t.outcome with
    | error e => exact Or.inl ⟨e, rfl, rfl⟩
    | ok a => exact Or.inr ⟨a, a, rfl, rfl, rfl⟩

theorem unlogged_bind_ok {t : Trace α} {f : α → Trace γ} {a : α} (h : t.outcome = .ok a) :
    (t >>= f).unlogged = t.unlogged ++ (f a).unlogged := by
  rw [Trace.unlogged, calls_bind_ok h, List.filter_append]
  rfl

theorem unlogged_bind_error {t : Trace α} {f : α → Trace γ} {e : Failure}
    (h : t.outcome = .error e) : (t >>= f).unlogged = t.unlogged := by
  rw [Trace.unlogged, calls_bind_error h]
  rfl

/-- **Parts that agree are put together**: what follows has to agree for results that are
related. -/
theorem Agree.bind {R : α → β → Prop} {S : γ → δ → Prop} {t : Trace α} {u : Trace β}
    {f : α → Trace γ} {g : β → Trace δ} (h : t.Agree R u)
    (hfg : ∀ a b, R a b → (f a).Agree S (g b)) : (t >>= f).Agree S (u >>= g) := by
  rcases h.outcome with ⟨e, ht, hu⟩ | ⟨a, b, ht, hu, hab⟩
  · refine ⟨?_, Or.inl ⟨e, outcome_bind_error ht, outcome_bind_error hu⟩⟩
    rw [unlogged_bind_error ht, unlogged_bind_error hu]
    exact h.unlogged
  · have hnext := hfg a b hab
    refine ⟨?_, ?_⟩
    · rw [unlogged_bind_ok ht, unlogged_bind_ok hu, h.unlogged, hnext.unlogged]
    · rw [outcome_bind_ok ht, outcome_bind_ok hu]
      exact hnext.outcome

theorem Agree.map {t u : Trace α} (h : t.Agree Eq u) (f : α → γ) :
    (f <$> t).Agree Eq (f <$> u) := by
  refine h.bind ?_
  rintro a - rfl
  exact Agree.refl _

/-- After the same part, what follows has to agree. -/
theorem Agree.continue {S : γ → δ → Prop} (t : Trace α) {f : α → Trace γ} {g : α → Trace δ}
    (h : ∀ a, (f a).Agree S (g a)) : (t >>= f).Agree S (t >>= g) := by
  refine (Agree.refl t).bind ?_
  rintro a - rfl
  exact h a

/-- Traces of which all calls are to the log agree in any results. -/
theorem agree_of_isLog {t : Trace α} {u : Trace β} {a : α} {b : β}
    (hlog : t.Only (·.isLog = true)) (hlog' : u.Only (·.isLog = true)) (ht : t.outcome = .ok a)
    (hu : u.outcome = .ok b) : t.Agree (fun _ _ => True) u where
  unlogged := by
    have hnone : ∀ {ε : Type} {v : Trace ε}, v.Only (·.isLog = true) → v.unlogged = [] := by
      intro ε v hv
      exact List.filter_eq_nil_iff.mpr fun c hc => by simp [hv c hc]
    rw [hnone hlog, hnone hlog']
  outcome := Or.inr ⟨a, b, ht, hu, trivial⟩

/-- Traces that agree send the same requests. -/
theorem Agree.requests {R : α → β → Prop} {t : Trace α} {u : Trace β} (h : t.Agree R u) :
    t.requests = u.requests := by
  -- the calls to the log are no requests, so they may be left out before
  have hrequests : ∀ {ε : Type} (v : Trace ε), v.requests = v.unlogged.filterMap Call.request? := by
    intro ε v
    rw [Trace.requests, Trace.unlogged, List.filterMap_filter]
    refine List.filterMap_congr fun c _ => ?_
    cases hc : c.isLog with
    | false => rfl
    | true => exact Call.request?_of_isLog hc
  rw [hrequests, hrequests, h.unlogged]

theorem Agree.outcome_eq {t u : Trace α} (h : t.Agree Eq u) : t.outcome = u.outcome := by
  rcases h.outcome with ⟨e, ht, hu⟩ | ⟨a, b, ht, hu, rfl⟩ <;> rw [ht, hu]

end Trace

/-! ## The two places where there is logging -/

section Places

variable (c : Collaborators) (l l' : Log)

theorem logPrompt_agree (p : PromptEntry) :
    ((c.withLog l).logPrompt p).Agree (fun _ _ => True) ((c.withLog l').logPrompt p) := by
  obtain ⟨id, hid⟩ := exists_outcome_logPrompt (c.withLog l) p
  obtain ⟨id', hid'⟩ := exists_outcome_logPrompt (c.withLog l') p
  exact Trace.agree_of_isLog ((only_logPrompt _ p).mono fun _ h => h.1)
    ((only_logPrompt _ p).mono fun _ h => h.1) hid hid'

theorem logResponse_agree (id id' : Option Text) (r : ResponseEntry) :
    ((c.withLog l).logResponse id r).Agree (fun _ _ => True) ((c.withLog l').logResponse id' r) :=
  Trace.agree_of_isLog (only_logResponse _ id r) (only_logResponse _ id' r)
    (outcome_logResponse _ id r) (outcome_logResponse _ id' r)

/-- **Where a prompt is sent**, the id of the log ends in the response that is logged. -/
theorem submit_agree (prompt : Text) (settings : Settings) (tag subject user : Text)
    (id : Option Int) (use : Text → Text) :
    (submit (c.withLog l) prompt settings tag subject user id use).Agree Eq
      (submit (c.withLog l') prompt settings tag subject user id use) := by
  -- from here on the two have ids that may differ
  refine (logPrompt_agree c l l' _).bind fun logged logged' _ => ?_
  refine Trace.Agree.continue (c.ask _) fun reply => ?_
  refine (logResponse_agree c l l' logged logged' _).bind fun _ _ _ => ?_
  exact Trace.Agree.refl _

theorem Speech.generate_agree (s : Speech) (history : List Message) (character : Character)
    (settings : Settings) (conversation : Option Int) (scenario : Option Text)
    (user : Option Int) :
    (s.generate (c.withLog l) history character settings conversation scenario user).Agree Eq
      (s.generate (c.withLog l') history character settings conversation scenario user) := by
  rw [generate_eq, generate_eq]
  refine Trace.Agree.continue (gatherBrief c character settings _ _ _ _) fun b => ?_
  refine Trace.Agree.continue (finish c s.extras b _ history) fun prompt => ?_
  exact submit_agree c l l' prompt settings _ _ _ _ _

theorem generateSceneNarration_agree (source : Option SceneSource) (user conversation : Option Int)
    (kind : Text) (context : SceneContext) :
    (generateSceneNarration (c.withLog l) source user conversation kind context).Agree Eq
      (generateSceneNarration (c.withLog l') source user conversation kind context) := by
  cases source with
  | none => exact Trace.Agree.refl _
  | some source =>
    refine Trace.Agree.continue (.ofExcept source.settings) fun settings => ?_
    refine Trace.Agree.continue _ fun found => ?_
    refine Trace.Agree.continue (sceneWorld c _ _ _) fun world => ?_
    refine Trace.Agree.continue _ fun introductions => ?_
    exact submit_agree c l l' _ settings _ _ _ _ _

/-- **Where a state of the world is asked for**, no answer of the gateway is an answer too, and no
response is logged then. -/
theorem generateWorld_agree (settings : Except Failure Settings) (character : Character)
    (user history : Text) (names : Labels) (scenario : Option Text) :
    (generateWorld (c.withLog l) settings character user history names scenario).Agree Eq
      (generateWorld (c.withLog l') settings character user history names scenario) := by
  unfold generateWorld
  refine Trace.Agree.continue _ fun profile => ?_
  refine Trace.Agree.continue (.ofExcept (Prompt.loadWorldState c.templates)) fun template => ?_
  refine Trace.Agree.continue (.ofExcept settings) fun settings => ?_
  refine (logPrompt_agree c l l' _).bind fun logged logged' _ => ?_
  refine Trace.Agree.continue (askLeniently c _) fun answer => ?_
  cases answer with
  | none => exact Trace.Agree.refl _
  | some reply =>
    refine (logResponse_agree c l l' _ _ _).bind fun _ _ _ => ?_
    exact Trace.Agree.refl _

theorem generateAndKeepWorld_agree (settings : Except Failure Settings) (conversation : Option Int)
    (character : Character) (user history : Text) (names : Labels) (scenario : Option Text) :
    (generateAndKeepWorld (c.withLog l) settings conversation character user history names
        scenario).Agree Eq
      (generateAndKeepWorld (c.withLog l') settings conversation character user history names
        scenario) := by
  have hkeep : ∀ l, (c.withLog l).keepWorld = c.keepWorld := fun _ => rfl
  unfold generateAndKeepWorld
  rw [hkeep, hkeep]
  cases c.keepWorld with
  | none => exact Trace.Agree.refl _
  | some keep =>
    refine (generateWorld_agree c l l' settings character user history names scenario).bind ?_
    rintro state - rfl
    exact Trace.Agree.refl _

end Places

/-! ## Everything that is generated -/

/-- **Everything that is generated**, with what it is generated from. -/
inductive Generation
  | speech (s : Speech) (history : List Message) (character : Character) (settings : Settings)
      (conversation : Option Int) (scenario : Option Text) (user : Option Int)
  | scene (source : Option SceneSource) (user conversation : Option Int) (kind : Text)
      (context : SceneContext)
  | world (settings : Except Failure Settings) (character : Character) (user history : Text)
      (names : Labels) (scenario : Option Text)
  | keptWorld (settings : Except Failure Settings) (conversation : Option Int)
      (character : Character) (user history : Text) (names : Labels) (scenario : Option Text)

namespace Generation

/-- What a generation gives. -/
inductive Result
  | said (g : Generated)
  | world (state : WorldState)

/-- The trace of a generation. -/
def run (c : Collaborators) : Generation → Trace Result
  | speech s history character settings conversation scenario user =>
    .said <$> s.generate c history character settings conversation scenario user
  | scene source user conversation kind context =>
    .said <$> generateSceneNarration c source user conversation kind context
  | world settings character user history names scenario =>
    .world <$> generateWorld c settings character user history names scenario
  | keptWorld settings conversation character user history names scenario =>
    .world <$> generateAndKeepWorld c settings conversation character user history names scenario

theorem run_agree (g : Generation) (c : Collaborators) (l l' : Log) :
    (g.run (c.withLog l)).Agree Eq (g.run (c.withLog l')) := by
  cases g with
  | speech => exact (Speech.generate_agree ..).map _
  | scene => exact (generateSceneNarration_agree ..).map _
  | world => exact (generateWorld_agree ..).map _
  | keptWorld => exact (generateAndKeepWorld_agree ..).map _

end Generation

/-- **A series of generations**: which comes next, and whom it asks beside the log, is decided by
the outcomes of those before. -/
def Series :=
  List (Except Failure Generation.Result) → Generation × Collaborators

namespace Series

/-- What the next generation sends, and its outcome, with a log. -/
def next (s : Series) (l : Log) (before : List (List Request × Except Failure Generation.Result)) :
    List Request × Except Failure Generation.Result :=
  let (g, c) := s (before.map (·.2))
  ((g.run (c.withLog l)).requests, (g.run (c.withLog l)).outcome)

/-- **What the first generations of a series send, and their outcomes**; every one has a log of its
own, so that a log may fail at some of them and not at others. -/
def run (s : Series) (log : Nat → Log) :
    Nat → List (List Request × Except Failure Generation.Result)
  | 0 => []
  | n + 1 => s.run log n ++ [s.next (log n) (s.run log n)]

theorem next_of_log (s : Series) (l l' : Log)
    (before : List (List Request × Except Failure Generation.Result)) :
    s.next l before = s.next l' before := by
  have hagree := (s (before.map (·.2))).1.run_agree (s (before.map (·.2))).2 l l'
  rw [next, next]
  exact Prod.ext hagree.requests hagree.outcome_eq

theorem run_eq_of_log (s : Series) (log log' : Nat → Log) (n : Nat) :
    s.run log n = s.run log' n := by
  -- the next generation is chosen by the same outcomes, so it is the same one
  induction n with
  | zero => rfl
  | succ n ih => rw [run, run, ih, next_of_log s (log n) (log' n)]

end Series

/-- **No log changes what is generated.** With any two logs, missing or failing at the prompt or at
the response, a generation sends the same requests, has the same outcome, and makes the same calls
to all others; and so do the generations of a series, whatever the logs do at each of them. -/
theorem generation_of_log :
    (∀ (g : Generation) (c : Collaborators) (l l' : Log),
      (g.run (c.withLog l)).requests = (g.run (c.withLog l')).requests ∧
        (g.run (c.withLog l)).outcome = (g.run (c.withLog l')).outcome ∧
        (g.run (c.withLog l)).unlogged = (g.run (c.withLog l')).unlogged) ∧
    ∀ (s : Series) (log log' : Nat → Log) (n : Nat), s.run log n = s.run log' n := by
  refine ⟨fun g c l l' => ?_, Series.run_eq_of_log⟩
  have hagree := g.run_agree c l l'
  exact ⟨hagree.requests, hagree.outcome_eq, hagree.unlogged⟩

end Roleplay
