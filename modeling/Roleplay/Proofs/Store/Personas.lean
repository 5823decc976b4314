import Roleplay.Proofs.Store.Tables
import Roleplay.Store.Users

/-!
# The one active persona

That a user has one active persona at most stands nowhere in the table of personas. It is kept by
what changes the table: a new persona comes inactive, and an activation makes all of a user's
personas inactive but the one that is chosen. So a run of any calls, of whichever users and with
whichever ids, leaves each user one or none; and no call is felt by the personas of another user.

## Main definitions

* `PersonaCall`, `Store.call`: the calls that change personas, and the store after one
* `Store.OneActive`: the invariant, that no user has two active personas

## Main results

* `Store.OneActive.activate`, `Store.OneActive.call`: every call keeps the invariant
* `Store.OneActive.filter_active`: the personas that are active are the one that is asked for
* `Store.find?_activate`: whom an activation makes active
* `Store.personasOf_call`: a call leaves the personas of other users as they are
* `Store.OneActive.activePersona?_createPersona`: a persona that is made to be active is so
* `Store.one_active_persona`: all of this, after any run
-/

namespace Roleplay

/-- **A call** that makes a user or a persona, or makes a persona the active one. -/
inductive PersonaCall
  | createUser (name displayName description : Option Text)
  | createPersona (user : Option Int) (name description avatar : Option Text) (active : Bool)
  | setActive (user persona : Option Int)

/-- The user whose personas a call is about. -/
def PersonaCall.user? : PersonaCall → Option Int
  | .createUser _ _ _ => none
  | .createPersona user _ _ _ _ => user
  | .setActive user _ => user

namespace Store

/-- **The store after a call.** A call that fails leaves what it has changed until then. -/
def call (s : Store) : PersonaCall → Store
  | .createUser name displayName description =>
    match s.createUser name displayName description with
    | .ok (s, _) => s
    | .error _ => s
  | .createPersona user name description avatar active =>
    match s.createPersona user name description avatar active with
    | .ok (s, _) => s
    | .error _ => s
  | .setActive user persona => (s.setActive user persona).1

variable {s t : Store} {user persona : Option Int} {name description avatar : Option Text}
  {active : Bool} {p : Persona}

/-! ## What the calls do -/

/-- The store with a new persona, which is not active. -/
def withPersona (s : Store) (user : Int) (name : Text) (description avatar : Option Text) : Store :=
  { s with
    personas := (s.personas.insert fun id => { id, user, name, description, avatar }).1 }

theorem personas_withPersona (s : Store) (user : Int) (name : Text)
    (description avatar : Option Text) :
    (s.withPersona user name description avatar).personas =
      (s.personas.insert fun id => { id, user, name, description, avatar }).1 := rfl

theorem personas_activate (s : Store) (user persona : Option Int) :
    (s.activate user persona).personas = s.personas.update (fun p => some p.user = user)
      fun p => { p with active := some p.id = persona } := rfl

/-- **A new user** is a row more in the table of users, and changes nothing else. -/
theorem createUser_eq_ok {displayName : Option Text} {u : User}
    (h : s.createUser name displayName description = .ok (t, u)) :
    ∃ make : Int → User, (∀ i, (make i).id = i) ∧
      t = { s with users := (s.users.insert make).1 } := by
  rw [createUser] at h
  obtain ⟨-, -, h⟩ := Except.exists_of_bind_eq_ok h
  obtain ⟨name, -, h⟩ := Except.exists_of_bind_eq_ok h
  dsimp only at h
  split at h
  · cases h
  · obtain ⟨rfl, -⟩ := Prod.mk.inj (Except.ok.inj h)
    exact ⟨fun id => { id, name, displayName, description }, fun _ => rfl, rfl⟩

/-- **A new persona** comes inactive, and is activated when it is to be active. -/
theorem createPersona_eq_ok (h : s.createPersona user name description avatar active = .ok (t, p)) :
    s.accept [user] = .ok () ∧
    ∃ v n, user = some v ∧ p = ⟨s.personas.lastId + 1, v, n, description, avatar, active⟩ ∧
      t = if active then (s.withPersona v n description avatar).activate user (some p.id)
        else s.withPersona v n description avatar := by
  rw [createPersona] at h
  obtain ⟨_, haccept, h⟩ := Except.exists_of_bind_eq_ok h
  obtain ⟨v, hv, h⟩ := Except.exists_of_bind_eq_ok h
  obtain ⟨n, -, h⟩ := Except.exists_of_bind_eq_ok h
  obtain ⟨-, -, h⟩ := Except.exists_of_bind_eq_ok h
  obtain ⟨rfl, rfl⟩ := Prod.mk.inj (Except.ok.inj h)
  obtain rfl := require_eq_ok_iff.mp hv
  exact ⟨haccept, v, n, rfl, rfl, rfl⟩

/-- **What `setActive` leaves**: an activation, but nothing changes when the number of the user does
not fit, and none is chosen when that of the persona does not. -/
theorem setActive_cases (s : Store) (user persona : Option Int) :
    (s.setActive user persona).1 = s ∨
      ∃ chosen, (s.setActive user persona).1 = s.activate user chosen := by
  rw [setActive]
  split
  · exact Or.inl rfl
  · split
    · exact Or.inr ⟨none, rfl⟩
    · exact Or.inr ⟨persona, rfl⟩

/-- The personas after an activation. -/
theorem exists_of_mem_activate (h : p ∈ (s.activate user persona).personas.rows) :
    ∃ r ∈ s.personas.rows, p = { r with
      active := if some r.user = user then decide (some r.id = persona) else r.active } := by
  obtain ⟨r, hr, rfl⟩ := List.mem_map.mp h
  refine ⟨r, hr, ?_⟩
  by_cases hu : some r.user = user <;> simp [hu]

/-! ## The invariant -/

/-- **No user has two active personas**, in an open store. -/
structure OneActive (s : Store) : Prop where
  isOpen : s.isClosed = false
  ordered : s.personas.Ordered (·.id)
  one : ∀ p ∈ s.personas.rows, ∀ q ∈ s.personas.rows,
    p.active = true → q.active = true → p.user = q.user → p = q

namespace OneActive

theorem empty : OneActive .empty where
  isOpen := rfl
  ordered := .empty
  one := fun _ h => absurd h List.not_mem_nil

/-- An inactive persona more. -/
theorem withPersona (h : s.OneActive) (user : Int) (name : Text)
    (description avatar : Option Text) : (s.withPersona user name description avatar).OneActive where
  isOpen := h.isOpen
  ordered := by
    rw [personas_withPersona]
    exact h.ordered.insert fun _ => rfl
  one := by
    -- the new one is not active, so that two active ones are old
    have hold : ∀ p ∈ (s.withPersona user name description avatar).personas.rows,
        p.active = true → p ∈ s.personas.rows := by
      intro p hp hactive
      rw [personas_withPersona, Table.rows_insert, List.mem_append, List.mem_singleton] at hp
      rcases hp with hp | rfl
      · exact hp
      · cases hactive
    exact fun p hp q hq hpa hqa => h.one p (hold p hp hpa) q (hold q hq hqa) hpa hqa

/-- **An activation**, of whichever persona of whichever user. -/
theorem activate (h : s.OneActive) (user persona : Option Int) :
    (s.activate user persona).OneActive where
  isOpen := h.isOpen
  ordered := by
    rw [personas_activate]
    exact h.ordered.update fun _ => rfl
  one := by
    intro p hp q hq hpa hqa huser
    obtain ⟨p, hp', rfl⟩ := exists_of_mem_activate hp
    obtain ⟨q, hq', rfl⟩ := exists_of_mem_activate hq
    have hpq : p.user = q.user := huser
    have hsame : p = q := by
      by_cases hu : some p.user = user
      · -- of the user: both are the one that is chosen
        have hpid : some p.id = persona := by simpa [hu] using hpa
        have hqid : some q.id = persona := by simpa [← hpq, hu] using hqa
        exact h.ordered.eq_of_id hp' hq' (Option.some.inj (hpid.trans hqid.symm))
      · -- of another: both are as they were
        exact h.one p hp' q hq' (by simpa [hu] using hpa) (by simpa [← hpq, hu] using hqa) hpq
    rw [hsame]

/-- **Every call keeps the invariant.** -/
theorem call (h : s.OneActive) (c : PersonaCall) : (s.call c).OneActive := by
  cases c with
  | createUser name displayName description =>
    rw [Store.call]
    split
    · next hcreate =>
      obtain ⟨make, -, rfl⟩ := createUser_eq_ok hcreate
      exact ⟨h.isOpen, h.ordered, h.one⟩
    · exact h
  | createPersona user name description avatar active =>
    rw [Store.call]
    split
    · next hcreate =>
      obtain ⟨-, v, n, -, -, rfl⟩ := createPersona_eq_ok hcreate
      have hnew := h.withPersona v n description avatar
      split
      · exact hnew.activate _ _
      · exact hnew
    · exact h
  | setActive user persona =>
    rw [Store.call]
    rcases s.setActive_cases user persona with heq | ⟨chosen, heq⟩
    · rwa [heq]
    · rw [heq]
      exact h.activate user chosen

/-- **No run breaks it.** -/
theorem run (h : s.OneActive) (cs : List PersonaCall) : (cs.foldl Store.call s).OneActive := by
  induction cs generalizing s with
  | nil => exact h
  | cons c cs ih => exact ih (h.call c)

end OneActive

/-! ## What is read -/

/-- Rows of which one at most is picked. -/
theorem filter_eq_toList_find? {α : Type} {as : List α} {f : α → Bool} (hnodup : as.Nodup)
    (hone : ∀ a ∈ as, ∀ b ∈ as, f a = true → f b = true → a = b) :
    as.filter f = (as.find? f).toList := by
  induction as with
  | nil => rfl
  | cons a as ih =>
    obtain ⟨hnew, hnodup⟩ := List.nodup_cons.mp hnodup
    by_cases ha : f a = true
    · -- `a` is picked, so that nothing behind it is
      have hrest : as.filter f = [] := by
        refine List.filter_eq_nil_iff.mpr fun b hb hfb => hnew ?_
        rwa [hone a List.mem_cons_self b (List.mem_cons_of_mem a hb) ha hfb]
      rw [List.filter_cons_of_pos ha, hrest, List.find?_cons_of_pos ha]
      rfl
    · rw [List.filter_cons_of_neg ha, List.find?_cons_of_neg ha]
      exact ih hnodup fun b hb c hc =>
        hone b (List.mem_cons_of_mem a hb) c (List.mem_cons_of_mem a hc)

/-- **The personas that are active** are the one that is asked for. -/
theorem OneActive.filter_active (h : s.OneActive) (user : Option Int) :
    (s.personas.filter fun p => some p.user = user).filter (·.active) =
      (s.personas.find? fun p => some p.user = user && p.active).toList := by
  rw [Table.filter, List.filter_filter, Table.find?, ← filter_eq_toList_find? h.ordered.nodup]
  · simp only [Bool.and_comm]
  · intro p hp q hq hpuser hquser
    simp only [Bool.and_eq_true, decide_eq_true_eq] at hpuser hquser
    exact h.one p hp q hq hpuser.2 hquser.2 (Option.some.inj (hpuser.1.trans hquser.1.symm))

/-- **Whom an activation makes active**: the persona of the user that has the id, if one has. -/
theorem find?_activate (s : Store) (user persona : Option Int) :
    ((s.activate user persona).personas.find? fun p => some p.user = user && p.active) =
      ((s.personas.filter fun p => some p.user = user).find? fun p => some p.id = persona).map
        ({ · with active := true }) := by
  rw [personas_activate, Table.find?, Table.update, List.find?_map, Table.filter, List.find?_filter]
  -- the one that is active afterwards is the one that is chosen
  have hchosen : ((fun p : Persona => some p.user = user && p.active) ∘ fun p =>
      if some p.user = user then { p with active := some p.id = persona } else p) =
        fun p : Persona => some p.user = user && some p.id = persona := by
    funext p
    by_cases hu : some p.user = user <;> simp [hu]
  simp only [decide_eq_true_eq, Bool.decide_and] at hchosen ⊢
  rw [hchosen]
  refine Option.map_congr fun p hp => ?_
  have hmatch := List.find?_some hp
  simp only [Bool.and_eq_true, decide_eq_true_eq] at hmatch
  simp [hmatch]

/-- **An activation** leaves the personas of other users as they are. -/
theorem filter_activate_of_ne {other : Option Int} (h : user ≠ other) (persona : Option Int) :
    ((s.activate user persona).personas.filter fun p => some p.user = other) =
      s.personas.filter fun p => some p.user = other := by
  have hother : ∀ p : Persona, decide (some p.user = user) = true →
      decide (some p.user = other) = false := by
    intro p hp
    rw [of_decide_eq_true hp]
    exact decide_eq_false h
  rw [personas_activate]
  exact Table.filter_update hother fun p hp => hother p hp

theorem personasOf_activate {other : Int} (h : user ≠ some other) (persona : Option Int) :
    (s.activate user persona).personasOf (some other) = s.personasOf (some other) := by
  simp only [personasOf, filter_activate_of_ne h]
  rfl

theorem personasOf_withPersona {v other : Int} (h : v ≠ other) (n : Text) :
    (s.withPersona v n description avatar).personasOf (some other) =
      s.personasOf (some other) := by
  have hrows : ((s.withPersona v n description avatar).personas.filter
      fun p => some p.user = some other) = s.personas.filter fun p => some p.user = some other := by
    rw [personas_withPersona, Table.filter, Table.rows_insert, List.filter_append,
      List.filter_cons_of_neg (by simpa using h), List.filter_nil, List.append_nil, Table.filter]
  simp only [personasOf, hrows]
  rfl

/-- **A call** leaves the personas of other users as they are. -/
theorem personasOf_call (s : Store) (c : PersonaCall) {other : Int} (h : c.user? ≠ some other) :
    (s.call c).personasOf (some other) = s.personasOf (some other) := by
  cases c with
  | createUser name displayName description =>
    rw [call]
    split
    · next hcreate =>
      obtain ⟨make, -, rfl⟩ := createUser_eq_ok hcreate
      rfl
    · rfl
  | createPersona user name description avatar active =>
    rw [call]
    split
    · next hcreate =>
      obtain ⟨-, v, n, rfl, -, rfl⟩ := createPersona_eq_ok hcreate
      have hnew : (s.withPersona v n description avatar).personasOf (some other) = _ :=
        personasOf_withPersona (fun heq => h (congrArg some heq)) n
      split
      · exact (personasOf_activate h _).trans hnew
      · exact hnew
    · rfl
  | setActive user persona =>
    rw [call]
    rcases s.setActive_cases user persona with heq | ⟨chosen, heq⟩
    · rw [heq]
    · rw [heq]
      exact personasOf_activate h chosen

/-- **A persona that is made to be active** is the active one of its user. -/
theorem OneActive.activePersona?_createPersona (h : s.OneActive)
    (hcreate : s.createPersona user name description avatar true = .ok (t, p)) :
    t.activePersona? user = .ok (some p) := by
  obtain ⟨haccept, v, n, rfl, rfl, rfl⟩ := createPersona_eq_ok hcreate
  -- no other row has the new id
  have hnone : ((s.personas.rows.filter fun p => some p.user = some v).find?
      fun p => some p.id = some (s.personas.lastId + 1)) = none := by
    refine List.find?_eq_none.mpr fun r hr => ?_
    have hle := h.ordered.bounded r (List.mem_filter.mp hr).1
    simpa using Int.ne_of_lt (Int.lt_add_one_of_le hle)
  have hnew : (s.withPersona v n description avatar).personas.rows.filter
      (fun p => some p.user = some v) = (s.personas.rows.filter fun p => some p.user = some v) ++
        [⟨s.personas.lastId + 1, v, n, description, avatar, false⟩] := by
    rw [personas_withPersona, Table.rows_insert, List.filter_append,
      List.filter_cons_of_pos (by simp), List.filter_nil]
  have hafter : ((s.withPersona v n description avatar).activate (some v)
      (some (s.personas.lastId + 1))).accept [some v] = .ok () := haccept
  rw [if_pos rfl, activePersona?, hafter]
  show Except.ok _ = _
  rw [find?_activate, Table.filter, hnew, List.find?_append, hnone]
  simp

/-- **The active persona, after any run** of calls: of a user's personas the one that is asked for
is the only active one. Choosing one of them makes it active, choosing none or that of another user
leaves none. No call changes the personas of another user. -/
theorem one_active_persona (cs : List PersonaCall) {user : Option Int}
    (hu : user.all fits = true) (persona : Option Int) :
    let s := cs.foldl call .empty
    (∀ p ∈ s.personas.rows, ∀ q ∈ s.personas.rows,
      p.active = true → q.active = true → p.user = q.user → p = q) ∧
    (∃ personas active,
      s.personasOf user = .ok personas ∧ s.activePersona? user = .ok active ∧
      personas.filter (·.active) = active.toList ∧
      (persona.all fits = true → (s.setActive user persona).2 = .ok ()) ∧
      (s.setActive user persona).1.activePersona? user =
        .ok (if persona.all fits then
            (personas.find? fun p => some p.id = persona).map ({ · with active := true })
          else none)) ∧
    ∀ (c : PersonaCall) (other : Int), c.user? ≠ some other →
      (s.call c).personasOf (some other) = s.personasOf (some other) := by
  intro s
  have h : s.OneActive := OneActive.empty.run cs
  have haccept : s.accept [user] = .ok () := accept_eq_ok_iff.mpr ⟨h.isOpen, by simpa using hu⟩
  have hactive : ∀ chosen : Option Int, (s.activate user chosen).activePersona? user =
      .ok (((s.personas.filter fun p => some p.user = user).find? fun p => some p.id = chosen).map
        ({ · with active := true })) := by
    intro chosen
    have hafter : (s.activate user chosen).accept [user] = .ok () := haccept
    rw [← find?_activate, activePersona?, hafter]
    rfl
  refine ⟨h.one, ⟨_, _, ?_, ?_, h.filter_active user, ?_⟩, fun c other => s.personasOf_call c⟩
  · rw [personasOf, haccept]
    rfl
  · rw [activePersona?, haccept]
    rfl
  · by_cases hp : persona.all fits = true
    · have hpersona : s.accept [persona] = .ok () :=
        accept_eq_ok_iff.mpr ⟨h.isOpen, by simpa using hp⟩
      rw [setActive, haccept, hpersona, if_pos hp]
      exact ⟨fun _ => rfl, hactive persona⟩
    · -- an id that does not fit: all have been made inactive before it is refused
      refine ⟨fun hfits => absurd hfits hp, ?_⟩
      rw [setActive, haccept, if_neg hp]
      cases hpersona : s.accept [persona] with
      | ok _ => exact absurd ((accept_eq_ok_iff.mp hpersona).2 _ List.mem_cons_self) hp
      | error e =>
        have hnone : (s.personas.filter fun p => some p.user = user).find?
            (fun p => decide (some p.id = none)) = none :=
          List.find?_eq_none.mpr fun _ _ => by simp
        simpa only [hnone, Option.map_none] using hactive none

/-- Two users, the personas of one of which is chosen, and then that of the other. -/
theorem one_active_persona_chosen :
    let cs : List PersonaCall :=
      [.createUser (some "sam") none none, .createUser (some "kim") none none,
        .createPersona (some 1) (some "Knight") none none true,
        .createPersona (some 2) (some "Monk") none none true,
        .createPersona (some 1) (some "Thief") none none false]
    let s := cs.foldl call .empty
    (s.setActive (some 1) (some 3)).1.activePersona? (some 1) =
        .ok (some ⟨3, 1, "Thief", none, none, true⟩) ∧
      (s.setActive (some 1) (some 2)).1.activePersona? (some 1) = .ok none := by
  intro cs s
  have hpersonas : s.personasOf (some 1) =
      .ok [⟨1, 1, "Knight", none, none, true⟩, ⟨3, 1, "Thief", none, none, false⟩] := rfl
  have hfits : (some (1 : Int)).all fits = true := by decide
  obtain ⟨-, ⟨_, _, hthief, -, -, -, hactive⟩, -⟩ := one_active_persona cs hfits (some 3)
  obtain ⟨-, ⟨_, _, hmonk, -, -, -, hnone⟩, -⟩ := one_active_persona cs hfits (some 2)
  obtain rfl := Except.ok.inj (hthief.symm.trans hpersonas)
  obtain rfl := Except.ok.inj (hmonk.symm.trans hpersonas)
  exact ⟨hactive, hnone⟩

end Store

end Roleplay
