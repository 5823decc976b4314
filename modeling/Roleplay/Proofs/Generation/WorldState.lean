import Roleplay.Generation.WorldState
import Roleplay.Proofs.Generation.Calls
import Roleplay.Proofs.World.Recovered

/-!
# Generated states

A generation of the state of the world has one of two ends when the card and the template can be
read: the state that the answer of the model tells, or the default state. In both something is
known. A model that does not answer, and an answer that tells nothing, are no failures of the
generation.

## Main definitions

* `WorldState.MadeFrom`: the state that is made from what a model answers
* `Gateway.Serves`: a gateway that answers, or fails as gateways do
* `Failure.isOfModel`: a failure that a model is the cause of
* `Trace.KeepsNothing`: a trace that keeps no state of the world

## Main results

* `outcome_generateWorld`: the outcome, once everything is read
* `exists_generateWorld`, `generateWorld_made`: a state is generated, and made from an answer
* `generateWorld_fails`: no failure of a generation is one of the model
* `keepsNothing_generateWorld`, `generateAndKeepWorld_ok`: only keeping a generated state keeps it
-/

namespace Roleplay

/-! ## Traces that keep nothing -/

/-- Whether a call keeps a state of the world. -/
def Call.keeps : Call → Bool
  | keepWorld _ _ => true
  | _ => false

/-- **A trace that keeps no state of the world.** -/
def Trace.KeepsNothing {α : Type} (t : Trace α) : Prop :=
  t.Only (·.keeps = false)

/-! ## What is made from an answer -/

/-- Whether a model is the cause of a failure: it does not answer, or its answer tells nothing. -/
def Failure.isOfModel : Failure → Bool
  | gateway _ => true
  | noWorldState => true
  | _ => false

/-- **A gateway that serves**: it answers each request, or fails as gateways do. -/
def Gateway.Serves (g : Gateway) : Prop :=
  ∀ r, (∃ reply, g r = .ok reply) ∨ ∃ t, g r = .error (.gateway t)

namespace WorldState

/-- **The state that is made from an answer**: what it tells of those that have a name, when it
tells anything, and otherwise the default state. In both something is known. -/
structure MadeFrom (names : Labels) (answer : Except Failure Reply) (s : WorldState) : Prop where
  hasContent : s.hasContent = true
  told : ∀ reply, answer = .ok reply → (recover names reply.content).hasContent = true →
    s = recover names reply.content ∧ s.keys ⊆ names.map (·.1)
  untold : (∀ reply, answer = .ok reply → (recover names reply.content).hasContent = false) →
    s = .default

variable {names : Labels}

theorem keys_recover_subset (names : Labels) (t : Text) :
    (recover names t).keys ⊆ names.map (·.1) := by
  intro k hk
  obtain ⟨q, hq, rfl⟩ := List.mem_map.mp hk
  obtain ⟨-, display, hmem, -⟩ := (recover_tidy names t).selected q hq
  exact List.mem_map.mpr ⟨_, hmem, rfl⟩

theorem madeFrom_reply (names : Labels) (reply : Reply) :
    ((recoverContent? names reply.content).getD .default).MadeFrom names (.ok reply) := by
  cases hs : recoverContent? names reply.content with
  | none =>
    -- the answer tells nothing
    have hnone := recoverContent?_eq_none_iff.mp hs
    refine ⟨hasContent_default, fun r hr htold => ?_, fun _ => rfl⟩
    cases hr
    rw [hnone] at htold
    cases htold
  | some s =>
    have hrecover := eq_recover_of_recoverContent?_eq_some hs
    have hcontent : s.hasContent = true := by
      by_contra hnot
      rw [Bool.not_eq_true, hrecover, ← recoverContent?_eq_none_iff, hs] at hnot
      cases hnot
    refine ⟨hcontent, fun r hr _ => ?_, fun hnone => ?_⟩
    · cases hr
      exact ⟨hrecover, by simpa [hrecover] using keys_recover_subset names reply.content⟩
    · rw [hrecover, hnone reply rfl] at hcontent
      cases hcontent

theorem madeFrom_error (names : Labels) (e : Failure) :
    WorldState.default.MadeFrom names (.error e) where
  hasContent := hasContent_default
  told := fun _ h => by cases h
  untold := fun _ => rfl

theorem MadeFrom.distinct {answer : Except Failure Reply} {s : WorldState}
    (h : s.MadeFrom names answer) : s.Distinct := by
  have hdefault : WorldState.default.Distinct := by decide
  cases answer with
  | error e => exact h.untold (fun _ hr => by cases hr) ▸ hdefault
  | ok reply =>
    -- a recovered state is tidy, and so distinct
    by_cases htold : (recover names reply.content).hasContent = true
    · rw [(h.told reply rfl htold).1]
      exact (recover_tidy names _).distinct
    · refine h.untold (fun r hr => ?_) ▸ hdefault
      cases hr
      exact Bool.eq_false_iff.mpr htold

end WorldState

/-! ## The generation -/

section Generation

variable {c : Collaborators} {settings : Except Failure Settings} {character : Character}
  {user history : Text} {names : Labels} {scenario : Option Text} {profile : Profile}

/-- The request for a state of the world, once everything is read. -/
def worldRequestOf (template : Text) (profile : Profile) (user history : Text) (s : Settings) :
    Request :=
  worldRequest [{ role := .user, content := worldPrompt template profile user history }] s

/-- The names of a generation; without any the two speakers are meant. -/
def namesOr (names : Labels) (profile : Profile) (user : Text) : Labels :=
  if names.isEmpty then .ofNames (some profile.name) (some user) else names

/-- What becomes of an answer. -/
def worldOfAnswer (names : Labels) : Except Failure Reply → Except Failure WorldState
  | .ok reply => .ok ((WorldState.recoverContent? names reply.content).getD .default)
  | .error (.gateway _) => .ok .default
  | .error e => .error e

/-- **The outcome of a generation**, once everything is read, is what becomes of the answer. -/
theorem outcome_generateWorld {template : Text} {s : Settings}
    (hprofile : character.profile scenario = .ok profile)
    (htemplate : Prompt.loadWorldState c.templates = .ok template) :
    (generateWorld c (.ok s) character user history names scenario).outcome =
      worldOfAnswer (namesOr names profile user)
        (c.gateway (worldRequestOf template profile user history s)) := by
  obtain ⟨id, hid⟩ := exists_outcome_logPrompt c
    { messages := [{ role := .user, content := worldPrompt template profile user history }],
      tag := "world", subject := profile.name, user }
  -- card, template and settings are read, and whatever id the log gives, the model is asked
  rw [generateWorld, Trace.outcome_bind_ok (outcome_profile hprofile),
    Trace.outcome_bind_ok (a := template) htemplate, Trace.outcome_bind_ok (a := s) rfl,
    Trace.outcome_bind_ok hid]
  have hask : (askLeniently c (worldRequestOf template profile user history s)).outcome =
      match c.gateway (worldRequestOf template profile user history s) with
      | .ok reply => .ok (some reply)
      | .error (.gateway _) => .ok none
      | .error e => .error e := rfl
  cases hanswer : c.gateway (worldRequestOf template profile user history s) with
  | ok reply =>
    rw [hanswer, worldRequestOf] at hask
    rw [Trace.outcome_bind_ok hask]
    exact Trace.outcome_bind_ok (outcome_logResponse _ _ _)
  | error e =>
    rw [hanswer] at hask
    cases e with
    | gateway t => exact Trace.outcome_bind_ok (a := none) hask
    | _ =>
      -- any other failure is passed on
      exact Trace.outcome_bind_error hask

theorem madeFrom_of_worldOfAnswer {answer : Except Failure Reply} {w : WorldState}
    (h : worldOfAnswer names answer = .ok w) : w.MadeFrom names answer := by
  cases answer with
  | ok reply =>
    cases h
    exact WorldState.madeFrom_reply names reply
  | error e =>
    cases e with
    | gateway t =>
      cases h
      exact WorldState.madeFrom_error names _
    | _ => cases h

/-- **A generation gives a state** when everything can be read and the gateway serves. -/
theorem exists_generateWorld {template : Text} {s : Settings}
    (hprofile : character.profile scenario = .ok profile)
    (htemplate : Prompt.loadWorldState c.templates = .ok template) (hserves : c.gateway.Serves) :
    ∃ w, (generateWorld c (.ok s) character user history names scenario).outcome = .ok w ∧
      w.MadeFrom (namesOr names profile user)
        (c.gateway (worldRequestOf template profile user history s)) := by
  have houtcome : (generateWorld c (.ok s) character user history names scenario).outcome = _ :=
    outcome_generateWorld hprofile htemplate
  obtain ⟨w, hw⟩ : ∃ w, worldOfAnswer (namesOr names profile user)
      (c.gateway (worldRequestOf template profile user history s)) = .ok w := by
    rcases hserves (worldRequestOf template profile user history s) with ⟨reply, hr⟩ | ⟨t, ht⟩
    · rw [hr]
      exact ⟨_, rfl⟩
    · rw [ht]
      exact ⟨_, rfl⟩
  exact ⟨w, houtcome.trans hw, madeFrom_of_worldOfAnswer hw⟩

/-- No failure to load a template is one of the model. -/
theorem isOfModel_loadWorldState {source : TemplateSource} {e : Failure}
    (h : Prompt.loadWorldState source = .error e) : e.isOfModel = false := by
  rw [Prompt.loadWorldState, Prompt.load] at h
  split at h
  · cases h
  · next f _ =>
    split at h
    · cases h
    · cases h
      cases f <;> rfl

/-- A template that cannot be loaded ends a generation. -/
theorem outcome_generateWorld_of_template {e : Failure}
    (hprofile : character.profile scenario = .ok profile)
    (htemplate : Prompt.loadWorldState c.templates = .error e) :
    (generateWorld c settings character user history names scenario).outcome = .error e := by
  rw [generateWorld, Trace.outcome_bind_ok (outcome_profile hprofile)]
  exact Trace.outcome_bind_error htemplate

/-- Settings that cannot be read end a generation. -/
theorem outcome_generateWorld_of_settings {template : Text} {e : Failure}
    (hprofile : character.profile scenario = .ok profile)
    (htemplate : Prompt.loadWorldState c.templates = .ok template) :
    (generateWorld c (.error e) character user history names scenario).outcome = .error e := by
  rw [generateWorld, Trace.outcome_bind_ok (outcome_profile hprofile),
    Trace.outcome_bind_ok (a := template) htemplate]
  exact Trace.outcome_bind_error rfl

/-- **No failure of a generation is one of the model**, unless the settings fail so. -/
theorem generateWorld_fails (hprofile : character.profile scenario = .ok profile)
    (hserves : c.gateway.Serves) {e : Failure}
    (h : (generateWorld c settings character user history names scenario).outcome = .error e) :
    e.isOfModel = false ∨ settings = .error e := by
  -- behind the card only the template and the settings can end it
  cases htemplate : Prompt.loadWorldState c.templates with
  | error f =>
    rw [outcome_generateWorld_of_template hprofile htemplate] at h
    cases h
    exact Or.inl (isOfModel_loadWorldState htemplate)
  | ok template =>
    cases settings with
    | error f =>
      rw [outcome_generateWorld_of_settings hprofile htemplate] at h
      cases h
      exact Or.inr rfl
    | ok s =>
      obtain ⟨w, hw, -⟩ : ∃ w,
          (generateWorld c (.ok s) character user history names scenario).outcome = .ok w ∧ _ :=
        exists_generateWorld hprofile htemplate hserves
      rw [hw] at h
      cases h

/-- **What is generated is made from an answer**, whatever the gateway. -/
theorem generateWorld_made {w : WorldState}
    (h : (generateWorld c settings character user history names scenario).outcome = .ok w) :
    ∃ profile template s, character.profile scenario = .ok profile ∧
      w.MadeFrom (namesOr names profile user)
        (c.gateway (worldRequestOf template profile user history s)) := by
  cases hprofile : character.profile scenario with
  | error f =>
    rw [generateWorld, hprofile, Trace.outcome_bind_error (e := .card f) rfl] at h
    cases h
  | ok profile =>
    cases htemplate : Prompt.loadWorldState c.templates with
    | error f =>
      rw [outcome_generateWorld_of_template hprofile htemplate] at h
      cases h
    | ok template =>
      cases settings with
      | error f =>
        rw [outcome_generateWorld_of_settings hprofile htemplate] at h
        cases h
      | ok s =>
        rw [outcome_generateWorld hprofile htemplate] at h
        exact ⟨profile, template, s, rfl, madeFrom_of_worldOfAnswer h⟩

/-! ## The calls -/

theorem Call.keeps_of_isLog {call : Call} (h : call.isLog = true) : call.keeps = false := by
  cases call <;> first | rfl | cases h

/-- **A generation by itself keeps nothing.** -/
theorem keepsNothing_generateWorld :
    (generateWorld c settings character user history names scenario).KeepsNothing := by
  have hprompt : ∀ entry, (c.logPrompt entry).KeepsNothing :=
    fun entry => (only_logPrompt c entry).mono fun _ h => Call.keeps_of_isLog h.1
  have hresponse : ∀ id entry, (c.logResponse id entry).KeepsNothing :=
    fun id entry => (only_logResponse c id entry).mono fun _ => Call.keeps_of_isLog
  rw [generateWorld]
  refine (Trace.only_ofExcept _).bind fun profile => ?_
  refine (Trace.only_ofExcept _).bind fun template => ?_
  refine (Trace.only_ofExcept _).bind fun s => (hprompt _).bind fun id => ?_
  refine Trace.Only.bind (by simp [askLeniently, Call.keeps]) fun reply => ?_
  cases reply with
  | none => exact Trace.only_pure _
  | some reply => exact (hresponse _ _).bind fun _ => Trace.only_pure _

/-- **A generation that is kept**: its outcome is that of the generation, and keeping it is the last
call. -/
theorem generateAndKeepWorld_ok {keep : Option Int → WorldState → Except Failure Unit}
    (hkeep : c.keepWorld = some keep) {conversation : Option Int} {w : WorldState}
    (h : (generateAndKeepWorld c settings conversation character user history names scenario).outcome
      = .ok w) :
    (generateWorld c settings character user history names scenario).outcome = .ok w ∧
      keep conversation w = .ok () ∧
      (generateAndKeepWorld c settings conversation character user history names scenario).calls =
        (generateWorld c settings character user history names scenario).calls ++
          [.keepWorld conversation w] := by
  rw [generateAndKeepWorld, hkeep] at h ⊢
  cases hw : (generateWorld c settings character user history names scenario).outcome with
  | error e =>
    rw [Trace.outcome_bind_error hw] at h
    cases h
  | ok w' =>
    rw [Trace.outcome_bind_ok hw] at h
    cases hk : keep conversation w' with
    | error e =>
      rw [Trace.outcome_bind_error (e := e) hk] at h
      cases h
    | ok =>
      rw [Trace.outcome_bind_ok (a := ()) hk] at h
      cases h
      refine ⟨rfl, hk, ?_⟩
      rw [Trace.calls_bind_ok hw, Trace.calls_bind_ok (a := ()) hk]
      rfl

end Generation

end Roleplay
