import Roleplay.Generation.Narration
import Roleplay.Generation.Reply
import Roleplay.Proofs.Card
import Roleplay.Proofs.Generation.Calls

/-!
# One request for each speech

A reply of the character, a message in the user's name and a narration are made alike: the card is
read, what the template needs is looked up, the prompt is finished and sent. They differ in the
template, in some variables, in what is put behind the prompt, and in what is made of the answer. So
one law holds of all three: a card that cannot be read ends a generation before anything is asked,
and otherwise, when nothing that is looked up fails, there is one request, and what comes of it is
what the generation gives.

A card that cannot be read is reported as a broken card, unless a numeral in it is too long.

## Main definitions

* `Speech`, `Speech.generate`: the generations that speak about one character
* `Collaborators.Answers`: collaborators of whom only the gateway fails
* `SceneSource.Answers`: a source that gives what a narration about a scene needs
* `Trace.Asks`: a trace that sends one request and gives what comes of it

## Main results

* `Speech.generate_eq`: the generations have one form
* `Speech.generate_asks`: each sends one request, or none when the card is broken
* `Speech.generate_misreports`: a broken card is not always reported as one
* `generateSceneNarration_asks`: a narration about a scene sends one request as well
-/

namespace Roleplay

/-- **The generations that speak about one character**, with what each is given beside the rest. -/
inductive Speech
  | reply (tag : Option Text)
  | impersonation (style : Option Text)
  | narration (kind : Text) (item : Option ItemContext)

namespace Speech

/-- The template of a speech. -/
def template (source : TemplateSource) : Speech → Except Failure Text
  | reply _ => Prompt.loadChat source
  | impersonation style => Prompt.loadImpersonation source style
  | narration kind _ => Prompt.loadNarration source kind

/-- The variables of its template. -/
def scope (b : Brief) (history : List Message) : Speech → Members
  | reply _ => Entries.merge (b.scope history) (stateVariables b.world)
  | impersonation style => Entries.put (b.scope history) "style" (.str (Prompt.styleOf style))
  | narration _ item =>
    let cast : Members :=
      [("character_name", .str b.profile.name), ("character_names", .str b.profile.name)]
    b.scope history ++ cast ++ item.elim [] (·.scope)

/-- What is put behind its prompt. -/
def extras : Speech → Extras
  | reply _ => ⟨true, true⟩
  | impersonation _ => ⟨false, true⟩
  | narration _ _ => ⟨false, false⟩

/-- The tag under which it is logged. -/
def tag : Speech → Text
  | reply tag => Text.given tag "chat"
  | impersonation _ => "impersonate"
  | narration _ _ => "action"

/-- What is made of the text of an answer, the user having a name. -/
def use (user : Text) : Speech → Text → Text
  | impersonation _ => (withoutSpeaker · user)
  | _ => id

/-- **A speech** about a character. -/
def generate (s : Speech) (c : Collaborators) (history : List Message) (character : Character)
    (settings : Settings) (conversation : Option Int) (scenario : Option Text)
    (user : Option Int) : Trace Generated :=
  match s with
  | reply tag => generateReply c history character settings tag conversation scenario user
  | impersonation style =>
    generateImpersonation c history character settings style user conversation scenario
  | narration kind item =>
    generateNarration c history character settings kind conversation item scenario user

section Form

variable {s : Speech} {c : Collaborators} {history : List Message} {character : Character}
  {settings : Settings} {conversation : Option Int} {scenario : Option Text} {user : Option Int}

/-- **The generations have one form.** -/
theorem generate_eq : s.generate c history character settings conversation scenario user = (do
    let b ← gatherBrief c character settings (s.template c.templates) conversation user scenario
    let prompt ← finish c s.extras b (Template.render (s.scope b history) b.template) history
    submit c prompt settings s.tag b.profile.name b.addressee.name b.user
      (s.use b.addressee.name)) := by
  cases s <;> rfl

end Form

end Speech

/-! ## What is looked up -/

/-- **Collaborators of whom only the gateway fails** in a conversation, and perhaps the log. -/
structure Collaborators.Answers (c : Collaborators) (conversation : Option Int) : Prop where
  addressee : ∀ user, ∃ addressee, c.addressee user = .ok addressee
  templates : ∀ address fault, c.templates address = .error fault → fault.allowsDefault = true
  world : ∀ world, c.world = some world → ∃ state, world conversation = .ok state
  lore : ∀ lore, c.lore = some lore → ∀ user character turns, ∃ t, lore user character turns = .ok t

namespace Collaborators.Answers

variable {c : Collaborators} {conversation : Option Int} (h : c.Answers conversation)

include h

theorem exists_load (address : TemplateAddress) (default : Text) :
    ∃ t, Prompt.load c.templates address default = .ok t := by
  unfold Prompt.load
  split
  · exact ⟨_, rfl⟩
  · next fault hfault =>
    rw [h.templates address fault hfault]
    exact ⟨_, rfl⟩

theorem exists_template (s : Speech) : ∃ t, s.template c.templates = .ok t := by
  cases s <;> exact h.exists_load _ _

theorem exists_askWorld :
    ∃ state, (c.askWorld conversation).outcome = .ok state := by
  unfold Collaborators.askWorld
  split
  · exact ⟨_, rfl⟩
  · next world hworld =>
    split
    · exact ⟨_, rfl⟩
    · exact h.world world hworld

theorem exists_askLore (user : Option Int) (character : Int) (turns : List Text) :
    ∃ t, (c.askLore user character turns).outcome = .ok t := by
  unfold Collaborators.askLore
  split
  · exact ⟨_, rfl⟩
  · next lore hlore => exact h.lore lore hlore user character turns

/-- **What a template needs is gathered** when the card can be read. -/
theorem exists_gatherBrief (settings : Settings) {user : Option Int}
    {template : Except Failure Text} {t : Text} (htemplate : template = .ok t)
    {character : Character} {scenario : Option Text} {profile : Profile}
    (hprofile : character.profile scenario = .ok profile) {addressee : Addressee}
    (haddressee : c.addressee (user <|> settings.user) = .ok addressee) :
    ∃ b, (gatherBrief c character settings template conversation user scenario).outcome = .ok b ∧
      b.addressee = addressee ∧ b.user = (user <|> settings.user) := by
  obtain ⟨world, hworld⟩ := h.exists_askWorld
  obtain ⟨style, hstyle⟩ := h.exists_load ⟨"style", "default"⟩ []
  -- none of the four that are asked for together fails
  have hfound : ((c.askAddressee (user <|> settings.user)).together
      ((Trace.ofExcept template).together ((c.askWorld conversation).together
        (.ofExcept (Prompt.loadWritingStyle c.templates))))).outcome =
      .ok (addressee, t, world, style) :=
    Trace.outcome_together haddressee
      (Trace.outcome_together htemplate (Trace.outcome_together hworld hstyle))
  unfold gatherBrief
  rw [Trace.outcome_bind_ok (outcome_profile hprofile), Trace.outcome_bind_ok hfound]
  exact ⟨_, rfl, rfl, rfl⟩

theorem exists_finish (extras : Extras) (b : Brief) (rendered : Text) (history : List Message) :
    ∃ prompt, (finish c extras b rendered history).outcome = .ok prompt := by
  obtain ⟨lore, hlore⟩ := h.exists_askLore b.user b.profile.id (history.map (·.content))
  unfold finish
  dsimp only
  split
  · rw [Trace.outcome_bind_ok hlore]
    exact ⟨_, rfl⟩
  · exact ⟨_, rfl⟩

end Collaborators.Answers

/-- **A card that cannot be read** ends a generation before anything is asked. -/
theorem gatherBrief_of_broken {c : Collaborators} {character : Character} {settings : Settings}
    {template : Except Failure Text} {conversation user : Option Int} {scenario : Option Text}
    {fault : Card.Fault} (h : character.profile scenario = .error fault) :
    gatherBrief c character settings template conversation user scenario =
      ⟨[], .error (.card fault)⟩ := by
  unfold gatherBrief
  rw [h]
  rfl

/-! ## What is sent -/

/-- **One request**: a failure of the gateway is passed on, and no response is logged; of an answer
the text is used, and the reasoning given unless it is empty. -/
structure Trace.Asks (t : Trace Generated) (gateway : Gateway) (r : Request) (use : Text → Text) :
    Prop where
  requests : t.requests = [r]
  failed : ∀ e, gateway r = .error e → t.outcome = .error e ∧ t.responses = []
  answered : ∀ reply, gateway r = .ok reply →
    t.outcome = .ok ⟨use reply.content, nonempty reply.reasoning⟩

namespace Trace

variable {α : Type} {t : Trace α} {f : α → Trace Generated} {gateway : Gateway} {r : Request}
  {use : Text → Text}

/-- What prepares a request adds none. -/
theorem Asks.after {a : α} (hprepares : t.Only (·.prepares = true)) (ht : t.outcome = .ok a)
    (h : (f a).Asks gateway r use) : (t >>= f).Asks gateway r use := by
  have hrequests : t.requests = [] := requests_of_only hprepares fun _ => Call.request?_of_prepares
  have hresponses : t.responses = [] :=
    responses_of_only hprepares fun _ => Call.response?_of_prepares
  constructor
  · rw [requests_bind_ok ht, hrequests, h.requests]
    rfl
  · -- no response is logged before the request, so none is when it fails
    intro e he
    rw [outcome_bind_ok ht, responses_bind_ok ht, hresponses]
    exact h.failed e he
  · intro reply hreply
    rw [outcome_bind_ok ht]
    exact h.answered reply hreply

end Trace

/-- **A prompt that is sent** is one request, whatever the log does. -/
theorem submit_asks (c : Collaborators) (prompt : Text) (settings : Settings)
    (tag subject user : Text) (id : Option Int) (use : Text → Text) :
    (submit c prompt settings tag subject user id use).Asks c.gateway
      (.ofSettings [{ role := .system, content := prompt }] settings id) use := by
  obtain ⟨logged, hlogged⟩ := exists_outcome_logPrompt c
    { messages := [{ role := .system, content := prompt }], tag, subject, user }
  refine Trace.Asks.after ((only_logPrompt c _).mono fun _ h => h.2) hlogged ?_
  cases hanswer : c.gateway (.ofSettings [{ role := .system, content := prompt }] settings id) with
  | error e =>
    have hask : (c.ask (.ofSettings [{ role := .system, content := prompt }] settings id)).outcome =
        .error e := hanswer
    constructor
    · rw [Trace.requests, Trace.calls_bind_error hask]
      rfl
    · intro e' he'
      rw [hanswer] at he'
      cases he'
      rw [Trace.outcome_bind_error hask, Trace.responses, Trace.calls_bind_error hask]
      exact ⟨rfl, rfl⟩
    · intro reply hreply
      rw [hanswer] at hreply
      cases hreply
  | ok reply =>
    have hask : (c.ask (.ofSettings [{ role := .system, content := prompt }] settings id)).outcome =
        .ok reply := hanswer
    constructor
    · -- what is logged of the answer is no request
      rw [Trace.requests_bind_ok hask, Trace.requests_bind_ok (outcome_logResponse c _ _),
        Trace.requests_of_only (only_logResponse c _ _) fun _ => Call.request?_of_isLog]
      rfl
    · intro e he
      rw [hanswer] at he
      cases he
    · intro reply' hreply
      rw [hanswer] at hreply
      cases hreply
      rw [Trace.outcome_bind_ok hask, Trace.outcome_bind_ok (outcome_logResponse c _ _)]
      rfl

/-! ## The law -/

namespace Speech

section Law

variable {s : Speech} {c : Collaborators} {history : List Message} {character : Character}
  {settings : Settings} {conversation : Option Int} {scenario : Option Text} {user : Option Int}

/-- **A card that cannot be read** ends a speech before anything is asked. -/
theorem generate_of_broken {fault : Card.Fault} (h : Card.read character.cardText = .error fault) :
    s.generate c history character settings conversation scenario user =
      ⟨[], .error (.card fault)⟩ := by
  have hprofile : character.profile scenario = .error fault := by
    rw [Character.profile, h]
    rfl
  rw [generate_eq, gatherBrief_of_broken hprofile]
  rfl

/-- **What is sent** when the card can be read and nothing that is looked up fails. -/
theorem asks_of_answers {card : Card} (hcard : Card.read character.cardText = .ok card)
    (hanswers : c.Answers conversation) :
    ∃ addressee prompt, c.addressee (user <|> settings.user) = .ok addressee ∧
      (s.generate c history character settings conversation scenario user).Asks c.gateway
        (.ofSettings [{ role := .system, content := prompt }] settings (user <|> settings.user))
        (s.use addressee.name) := by
  obtain ⟨profile, hprofile⟩ : ∃ profile, character.profile scenario = .ok profile := by
    rw [Character.profile, hcard]
    exact ⟨_, rfl⟩
  obtain ⟨addressee, haddressee⟩ := hanswers.addressee (user <|> settings.user)
  obtain ⟨template, htemplate⟩ := hanswers.exists_template s
  obtain ⟨b, hb, rfl, huser⟩ :=
    hanswers.exists_gatherBrief settings htemplate hprofile haddressee
  obtain ⟨prompt, hprompt⟩ := hanswers.exists_finish s.extras b
    (Template.render (s.scope b history) b.template) history
  refine ⟨b.addressee, prompt, haddressee, ?_⟩
  rw [generate_eq, ← huser]
  -- what is gathered and what is put behind the template come before the one request
  exact .after only_gatherBrief hb (.after only_finish hprompt (submit_asks c prompt _ _ _ _ _ _))

end Law

/-- **One request for each speech.** A card that cannot be read ends a generation before anything is
asked, logged or sent, and is reported as broken unless a numeral in it is too long. Otherwise, when
nothing that is looked up fails, one system message is sent under the settings; a failure of the
gateway is passed on, and of an answer the text and the reasoning are given, without the user's name
in front when it is the user who speaks. -/
theorem generate_asks (s : Speech) (c : Collaborators) (history : List Message)
    (character : Character) (settings : Settings) (conversation : Option Int)
    (scenario : Option Text) (user : Option Int) :
    let t := s.generate c history character settings conversation scenario user
    (∀ fault, Card.read character.cardText = .error fault →
      t.calls = [] ∧ t.outcome = .error (.card fault) ∧
        (fault.isOfCard = true ∨ ∃ n before, fault = .malformed ⟨.tooManyDigits n, before⟩)) ∧
    ∀ card, Card.read character.cardText = .ok card → c.Answers conversation →
      ∃ addressee prompt, c.addressee (user <|> settings.user) = .ok addressee ∧
        t.Asks c.gateway
          (.ofSettings [{ role := .system, content := prompt }] settings (user <|> settings.user))
          (s.use addressee.name) := by
  intro t
  refine ⟨fun fault hfault => ?_, fun card hcard hanswers => asks_of_answers hcard hanswers⟩
  have hbroken : t = ⟨[], .error (.card fault)⟩ := generate_of_broken hfault
  rw [hbroken]
  exact ⟨rfl, rfl, Card.isOfCard_of_read hfault⟩

/-- The user's name in front of an answer, a log that fails, and a gateway that does. -/
theorem generate_asks_echo :
    let aria : Character := { id := 1, name := "Aria" }
    let echo : Reply := { content := "jordan: Sure.", reasoning := some [] }
    let c (answer : Except Failure Reply) : Collaborators :=
      { addressee := fun _ => .ok ⟨"Jordan", [], none⟩, templates := fun _ => .error .absent
        log := some fun _ => none, gateway := fun _ => answer }
    let t (answer : Except Failure Reply) : Trace Generated :=
      (impersonation none).generate (c answer) [] aria Purpose.chat.defaults none none none
    (t (.ok echo)).requests.length = 1 ∧ (t (.ok echo)).outcome = .ok ⟨"Sure.", none⟩ ∧
      (t (.error (.gateway "down"))).requests.length = 1 ∧
      (t (.error (.gateway "down"))).outcome = .error (.gateway "down") ∧
      ((impersonation none).generate (c (.ok echo)) [] { aria with cardText := "[]" }
        Purpose.chat.defaults none none none).outcome = .error (.card (.notObject "list")) := by
  intro aria echo c t
  have hanswers : ∀ answer, (c answer).Answers none := fun answer =>
    { addressee := fun _ => ⟨_, rfl⟩
      templates := fun _ fault hfault => by cases hfault; rfl
      world := fun _ hworld => by cases hworld
      lore := fun _ hlore => by cases hlore }
  obtain ⟨-, hasks⟩ := generate_asks (impersonation none) (c (.ok echo)) [] aria
    Purpose.chat.defaults none none none
  obtain ⟨addressee, prompt, haddressee, hok⟩ := hasks _ rfl (hanswers _)
  obtain ⟨-, hasks'⟩ := generate_asks (impersonation none) (c (.error (.gateway "down"))) [] aria
    Purpose.chat.defaults none none none
  obtain ⟨addressee', prompt', haddressee', hfailed⟩ := hasks' _ rfl (hanswers _)
  obtain ⟨hbroken, -⟩ := generate_asks (impersonation none) (c (.ok echo)) []
    { aria with cardText := "[]" } Purpose.chat.defaults none none none
  cases haddressee
  refine ⟨congrArg List.length hok.requests, ?_, congrArg List.length hfailed.requests,
    (hfailed.failed _ rfl).1, (hbroken _ rfl).2.1⟩
  rw [hok.answered echo rfl]
  rfl

/-- **A broken card is not always reported as one**: a text that is no object but a numeral of too
many digits. -/
theorem generate_misreports :
    ¬ ∀ (s : Speech) (c : Collaborators) (history : List Message) (character : Character)
      (settings : Settings) (conversation : Option Int) (scenario : Option Text)
      (user : Option Int),
      character.cardText ≠ [] → (∀ ms, Json.read character.cardText ≠ .ok (.obj ms)) →
      (s.generate c history character settings conversation scenario user).calls = [] ∧
        ∃ fault : Card.Fault, fault.isOfCard = true ∧
          (s.generate c history character settings conversation scenario user).outcome =
            .error (.card fault) := by
  intro hreports
  -- the text is kept closed, so that nothing computes with its digits
  obtain ⟨digits, hne, n, hread⟩ : ∃ digits : Text,
      digits ≠ [] ∧ ∃ n, Json.read digits = .error ⟨.tooManyDigits n, []⟩ := by
    have hdigits : Text.AllDigits ('1' :: List.replicate Numeral.maxDigits '1') := by
      intro d hd
      rw [List.eq_of_mem_replicate (n := Numeral.maxDigits + 1) hd]
      rfl
    refine ⟨_, List.cons_ne_nil _ _, _, Json.read_of_tooManyDigits hdigits (by decide) ?_⟩
    rw [List.length_cons, List.length_replicate]
    exact Nat.lt_succ_self _
  let aria : Character := { id := 1, name := "Aria", cardText := digits }
  let c : Collaborators :=
    { addressee := fun _ => .ok .unknown, templates := fun _ => .error .absent
      gateway := fun _ => .error (.gateway []) }
  have hcard : Card.read aria.cardText = .error (.malformed ⟨.tooManyDigits n, []⟩) := by
    change Card.read digits = _
    rw [Card.read, if_neg (by simpa using hne), hread]
  have hnotObject : ∀ ms, Json.read aria.cardText ≠ .ok (.obj ms) := by
    intro ms hms
    cases hread.symm.trans hms
  obtain ⟨-, fault, hofCard, houtcome⟩ :=
    hreports (.reply none) c [] aria Purpose.chat.defaults none none none hne hnotObject
  rw [generate_of_broken hcard] at houtcome
  cases houtcome
  cases hofCard

end Speech

/-! ## Scenes -/

/-- **A source of which nothing fails** in a conversation. -/
structure SceneSource.Answers (source : SceneSource) (conversation : Option Int) : Prop where
  settings : ∃ settings, source.settings = .ok settings
  stored : ∃ stored, source.conversation conversation = .ok stored
  cast : ∃ cast, source.cast conversation = .ok cast ∧ ∀ m ∈ cast, ∃ t, m.introduction = .ok t
  recent : ∃ turns, source.recent conversation = .ok turns

section Scene

variable {c : Collaborators} {conversation : Option Int}

theorem only_sceneWorld (c : Collaborators) (conversation : Option Int) (cast : List Character)
    (addressee : Addressee) :
    (sceneWorld c conversation cast addressee).Only (·.prepares = true) := by
  cases cast with
  | nil => exact Trace.only_pure _
  | cons first others => exact (only_askWorld c conversation).bind fun _ => Trace.only_pure _

theorem Collaborators.Answers.exists_sceneWorld (h : c.Answers conversation)
    (cast : List Character) (addressee : Addressee) :
    ∃ world, (sceneWorld c conversation cast addressee).outcome = .ok world := by
  cases cast with
  | nil => exact ⟨_, rfl⟩
  | cons first others =>
    obtain ⟨state, hstate⟩ := h.exists_askWorld
    exact ⟨_, Trace.outcome_bind_ok hstate⟩

theorem exists_introductions {cast : List Character}
    (h : ∀ m ∈ cast, ∃ t, m.introduction = .ok t) :
    ∃ ts, cast.mapM (fun m => m.introduction.mapError Failure.card) = .ok ts := by
  induction cast with
  | nil => exact ⟨[], rfl⟩
  | cons m cast ih =>
    obtain ⟨t, ht⟩ := h m List.mem_cons_self
    obtain ⟨ts, hts⟩ := ih fun n hn => h n (List.mem_cons_of_mem m hn)
    exact ⟨t :: ts, by rw [List.mapM_cons, ht, hts]; rfl⟩

/-- **One request for a scene**, when nothing that is looked up fails. -/
theorem generateSceneNarration_asks {source : SceneSource} (hsource : source.Answers conversation)
    (hanswers : c.Answers conversation) (user : Option Int) (kind : Text)
    (context : SceneContext) :
    ∃ settings prompt, source.settings = .ok settings ∧
      (generateSceneNarration c (some source) user conversation kind context).Asks c.gateway
        (.ofSettings [{ role := .system, content := prompt }] settings user) id := by
  obtain ⟨settings, hsettings⟩ := hsource.settings
  obtain ⟨stored, hstored⟩ := hsource.stored
  obtain ⟨cast, hcast, hread⟩ := hsource.cast
  obtain ⟨turns, hturns⟩ := hsource.recent
  obtain ⟨addressee, haddressee⟩ := hanswers.addressee user
  obtain ⟨template, htemplate⟩ :
      ∃ template, Prompt.loadNarration c.templates kind = .ok template :=
    hanswers.exists_load _ _
  obtain ⟨world, hworld⟩ := hanswers.exists_sceneWorld cast addressee
  obtain ⟨introductions, hintroductions⟩ := exists_introductions hread
  -- settings, what is asked for together, the world and the introductions, and then the request
  refine ⟨settings, (Template.render (sceneVariables cast introductions addressee world
    (Text.orEmpty (stored.bind (·.scenario))) turns context) template).strip, hsettings, ?_⟩
  refine .after (Trace.only_ofExcept _) hsettings ?_
  refine .after ?_ (Trace.outcome_together hstored (Trace.outcome_together hcast
    (Trace.outcome_together hturns (Trace.outcome_together haddressee htemplate)))) ?_
  · exact (Trace.only_ofExcept _).together ((Trace.only_ofExcept _).together
      ((Trace.only_ofExcept _).together ((only_askAddressee c user).together
        (Trace.only_ofExcept _))))
  refine .after (only_sceneWorld c conversation cast addressee) hworld ?_
  refine .after (Trace.only_ofExcept _) hintroductions ?_
  exact submit_asks c _ settings _ _ _ _ _

end Scene

end Roleplay
