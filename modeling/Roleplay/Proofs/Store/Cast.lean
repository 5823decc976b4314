import Mathlib.Data.List.Induction
import Roleplay.Proofs.Entries
import Roleplay.Proofs.Store.Tables
import Roleplay.Store.Scene

/-!
# The cast of a scene

A scene is an ordered set with a memory. Who was ever in it stands in a table from which nothing is
removed: one that comes is marked as present, one that leaves as absent, and one that comes back has
its old row. So the rows of a conversation tell the calls about it: who joined, in the order in
which they did so first, and for each whether the last call was to join. What is asked about a scene
is read off these rows, and the calls about one conversation do not reach the rows of another.

The rows are ordered by when they were made, and those that were made at the same time by their ids.
Ids count up, so that with a clock that does not run backwards this is the order of the table.

## Main definitions

* `Move`: a call to join or to leave
* `Move.joined`, `Move.present`: who ever joined a scene, and whether one is in it, by the calls
* `Participants.after`, `Store.act`: the table and the store after a call
* `Participants.scene`: the rows of a conversation

## Main results

* `Store.act_eq`, `Store.foldlM_act`: the calls are taken
* `Participants.scene_after`: what a call changes
* `Participants.scene_foldl`: after any calls the rows of a conversation are those that joined
* `Participants.mergeSort_rows`: the rows are in the order in which they were made
* `Store.cast_of_moves`: what is read about a scene, after any calls
-/

namespace Roleplay

/-! ## The calls -/

/-- **A call** by which a character joins the scene of a conversation, or leaves it. -/
inductive Move
  | join (conversation character : Int)
  | leave (conversation character : Int)
deriving DecidableEq

namespace Move

/-- The conversation that a call is about. -/
def conversation : Move → Int
  | join c _ => c
  | leave c _ => c

/-- The character that a call is about. -/
def character : Move → Int
  | join _ x => x
  | leave _ x => x

/-- Whether a call is one to join. -/
def isJoin : Move → Bool
  | join _ _ => true
  | leave _ _ => false

/-- **Who ever joined a scene**, in the order in which they did so first. -/
def joined (ms : List Move) (c : Int) : List Int :=
  ((ms.filter fun m => m.isJoin && m.conversation = c).map (·.character)).eraseDups

/-- **Whether a character is in a scene**: the last call about it was to join. -/
def present (ms : List Move) (c x : Int) : Bool :=
  (ms.filter fun m => m.conversation = c && m.character = x).getLast?.any (·.isJoin)

variable {ms : List Move} {m : Move} {c x : Int}

theorem eq_join (h : m.isJoin = true) (hc : m.conversation = c) (hx : m.character = x) :
    m = join c x := by
  cases m with
  | join d y => exact congrArg₂ join hc hx
  | leave d y => cases h

theorem joined_of_ne (h : m.conversation ≠ c) : joined (ms ++ [m]) c = joined ms c := by
  simp [joined, List.filter_append, h]

theorem joined_leave (ms : List Move) (c x d : Int) :
    joined (ms ++ [leave c x]) d = joined ms d := by
  simp [joined, List.filter_append, isJoin]

/-- Joining again does not change the order. -/
theorem joined_join (ms : List Move) (c x : Int) :
    joined (ms ++ [join c x]) c =
      if x ∈ joined ms c then joined ms c else joined ms c ++ [x] := by
  have hlast : [join c x].filter (fun m => m.isJoin && m.conversation = c) = [join c x] := by
    simp [isJoin, conversation]
  rw [joined, List.filter_append, hlast, List.map_append]
  exact eraseDups_concat _ x

theorem present_concat (ms : List Move) (m : Move) (c x : Int) :
    present (ms ++ [m]) c x =
      if m.conversation = c ∧ m.character = x then m.isJoin else present ms c x := by
  rw [present, List.filter_append]
  split
  · next hm =>
    rw [List.filter_cons_of_pos (by simpa using hm), List.filter_nil, List.getLast?_concat]
    rfl
  · next hm =>
    rw [List.filter_cons_of_neg (by simpa using hm), List.filter_nil, List.append_nil, present]

theorem mem_joined : x ∈ joined ms c ↔ join c x ∈ ms := by
  rw [joined, List.mem_eraseDups, List.mem_map]
  constructor
  · rintro ⟨m, hm, rfl⟩
    obtain ⟨hmem, habout⟩ := List.mem_filter.mp hm
    have hjoin : m.isJoin = true ∧ m.conversation = c := by simpa using habout
    exact eq_join hjoin.1 hjoin.2 rfl ▸ hmem
  · intro h
    exact ⟨join c x, List.mem_filter.mpr ⟨h, by simp [isJoin, conversation]⟩, rfl⟩

/-- Who is in a scene has joined it. -/
theorem mem_joined_of_present (h : present ms c x = true) : x ∈ joined ms c := by
  rw [present, Option.any_eq_true] at h
  obtain ⟨m, hlast, hjoin⟩ := h
  obtain ⟨hmem, habout⟩ := List.mem_filter.mp (List.mem_of_getLast? hlast)
  have hc : m.conversation = c ∧ m.character = x := by simpa using habout
  exact mem_joined.mpr (eq_join hjoin hc.1 hc.2 ▸ hmem)

/-- Nobody stands twice in the order. -/
theorem nodup_joined (ms : List Move) (c : Int) : (joined ms c).Nodup :=
  nodup_eraseDups _

end Move

/-! ## The table -/

/-- The table of those that have taken part in scenes. -/
abbrev Participants := Table Participant

namespace Participants

/-- **The table after a call** that is taken. -/
def after (ps : Participants) : Move → Participants
  | .join c x =>
    if ps.rows.any (Store.isParticipant c x) then
      ps.update (Store.isParticipant c x) ({ · with active := true })
    else (ps.insert fun id => { id, conversation := c, character := x }).1
  | .leave c x => ps.update (Store.isParticipant c x) ({ · with active := false })

/-- **The rows of a conversation**: who has taken part, and whether it is present. -/
def scene (ps : Participants) (c : Int) : List (Int × Bool) :=
  (ps.filter fun p => p.conversation = c).map fun p => (p.character, p.active)

variable {ps : Participants} {m : Move} {ms : List Move} {c x : Int}

theorem isParticipant_iff {p : Participant} :
    Store.isParticipant c x p = true ↔ p.conversation = c ∧ p.character = x := by
  simp [Store.isParticipant]

/-- What is asked about a participant is asked of the rows of its conversation. -/
theorem any_scene (ps : Participants) (c x : Int) (f : Bool → Bool) :
    (ps.rows.any fun p => Store.isParticipant c x p && f p.active) =
      (ps.scene c).any fun e => e.1 = x && f e.2 := by
  rw [scene, List.any_map, Table.filter, List.any_filter]
  simp only [Store.isParticipant, Option.some.injEq, Bool.and_assoc, Function.comp_def]

/-- Whether someone has taken part. -/
theorem any_isParticipant (ps : Participants) (c x : Int) :
    ps.rows.any (Store.isParticipant c x) = true ↔ x ∈ (ps.scene c).map (·.1) := by
  have hany := any_scene ps c x fun _ => true
  simp only [Bool.and_true] at hany
  rw [hany]
  simp

/-- Whether someone has taken part and is present. -/
theorem any_active (ps : Participants) (c x : Int) :
    (ps.rows.any fun p => Store.isParticipant c x p && p.active) = true ↔
      (x, true) ∈ ps.scene c := by
  rw [any_scene ps c x fun b => b]
  simp

/-- Marking a participant of another conversation. -/
theorem scene_update_of_ne {d : Int} (h : d ≠ c) (ps : Participants) (x : Int) (b : Bool) :
    scene (ps.update (Store.isParticipant d x) ({ · with active := b })) c = ps.scene c := by
  have hother : ∀ p : Participant, Store.isParticipant d x p = true →
      decide (p.conversation = c) = false := by
    intro p hp
    rw [(isParticipant_iff.mp hp).1]
    exact decide_eq_false h
  rw [scene, scene]
  exact congrArg _ (Table.filter_update hother fun p hp => hother p hp)

/-- **Marking a participant** of the conversation. -/
theorem scene_update (ps : Participants) (c x : Int) (b : Bool) :
    scene (ps.update (Store.isParticipant c x) ({ · with active := b })) c =
      (ps.scene c).map fun e => (e.1, if e.1 = x then b else e.2) := by
  have hconversation : ((fun p : Participant => decide (p.conversation = c)) ∘ fun p =>
      if Store.isParticipant c x p then { p with active := b } else p) =
        fun p : Participant => decide (p.conversation = c) := by
    funext p
    rw [Function.comp_apply]
    split <;> rfl
  rw [scene, Table.filter, Table.update, List.filter_map, hconversation, scene, Table.filter,
    List.map_map, List.map_map]
  refine List.map_congr_left fun p hp => ?_
  have hc : p.conversation = c := of_decide_eq_true (List.mem_filter.mp hp).2
  by_cases hx : p.character = x <;> simp [isParticipant_iff, hc, hx]

/-- **A new participant** stands behind all others, and is present. -/
theorem scene_insert (ps : Participants) (c x d : Int) :
    scene (ps.insert fun id => { id, conversation := d, character := x }).1 c =
      if d = c then ps.scene c ++ [(x, true)] else ps.scene c := by
  rw [scene, Table.filter, Table.rows_insert, List.filter_append, List.map_append]
  split
  · next hd =>
    rw [List.filter_cons_of_pos (by simpa using hd)]
    rfl
  · next hd =>
    rw [List.filter_cons_of_neg (by simpa using hd), List.filter_nil, List.map_nil,
      List.append_nil]
    rfl

/-- **The rows of other conversations** are not reached by a call. -/
theorem scene_after_of_ne (h : m.conversation ≠ c) (ps : Participants) :
    (ps.after m).scene c = ps.scene c := by
  cases m with
  | join d x =>
    have hd : d ≠ c := h
    rw [after]
    split
    · exact scene_update_of_ne hd ps x true
    · rw [scene_insert, if_neg hd]
  | leave d x => exact scene_update_of_ne h ps x false

/-! ## The rows tell the calls -/

/-- **The rows that some calls make**: who joined, and whether it is present. -/
def told (ms : List Move) (c : Int) : List (Int × Bool) :=
  (Move.joined ms c).map fun x => (x, Move.present ms c x)

/-- The rows tell who is in a scene. -/
theorem mem_told : (x, true) ∈ told ms c ↔ Move.present ms c x = true := by
  rw [told, List.mem_map]
  constructor
  · rintro ⟨y, -, heq⟩
    obtain ⟨rfl, hpresent⟩ := Prod.mk.inj heq
    exact hpresent
  · intro h
    exact ⟨x, Move.mem_joined_of_present h, Prod.ext rfl h⟩

/-- Marking tells a call about someone that has joined. -/
theorem told_mark (ms : List Move) (c x : Int) (hm : m.conversation = c ∧ m.character = x)
    (hjoined : Move.joined (ms ++ [m]) c = Move.joined ms c) :
    (told ms c).map (fun e => (e.1, if e.1 = x then m.isJoin else e.2)) = told (ms ++ [m]) c := by
  rw [told, told, hjoined, List.map_map]
  refine List.map_congr_left fun y _ => ?_
  simp only [Function.comp_apply, Move.present_concat, hm, true_and, eq_comm]

/-- **What a call changes** in the rows of a conversation. -/
theorem scene_after (h : ps.scene c = told ms c) (m : Move) :
    (ps.after m).scene c = told (ms ++ [m]) c := by
  by_cases hc : m.conversation = c
  · have hfirst : (ps.scene c).map (·.1) = Move.joined ms c := by
      rw [h, told, List.map_map]
      exact List.map_id _
    cases m with
    | join d x =>
      obtain rfl : d = c := hc
      have hany := any_isParticipant ps d x
      rw [hfirst] at hany
      by_cases hx : x ∈ Move.joined ms d
      · -- it is there: the row is marked
        have hjoined : Move.joined (ms ++ [.join d x]) d = Move.joined ms d := by
          rw [Move.joined_join, if_pos hx]
        rw [after, if_pos (hany.mpr hx), scene_update, h]
        exact told_mark ms d x ⟨rfl, rfl⟩ hjoined
      · -- it is not: a row comes to the end
        have hjoined : Move.joined (ms ++ [.join d x]) d = Move.joined ms d ++ [x] := by
          rw [Move.joined_join, if_neg hx]
        rw [after, if_neg (fun hp => hx (hany.mp hp)), scene_insert, if_pos rfl, h, told, told,
          hjoined, List.map_append]
        refine congrArg₂ (· ++ ·) (List.map_congr_left fun y hy => ?_) ?_
        · have hne : ¬ x = y := fun heq => hx (heq ▸ hy)
          rw [Move.present_concat, if_neg fun hm => hne hm.2]
        · rw [List.map_singleton, Move.present_concat, if_pos ⟨rfl, rfl⟩]
          rfl
    | leave d x =>
      obtain rfl : d = c := hc
      rw [after, scene_update, h]
      exact told_mark ms d x ⟨rfl, rfl⟩ (Move.joined_leave ms d x d)
  · -- a call about another conversation
    rw [scene_after_of_ne hc, h, told, told, Move.joined_of_ne hc]
    refine List.map_congr_left fun x _ => ?_
    rw [Move.present_concat, if_neg fun hm => hc hm.1]

/-- **After any calls** the rows of a conversation are those that joined. -/
theorem scene_foldl (ms : List Move) (c : Int) :
    scene (ms.foldl after ({} : Participants)) c = told ms c := by
  induction ms using List.reverseRecOn with
  | nil => rfl
  | append_singleton ms m ih =>
    rw [List.foldl_append, List.foldl_cons, List.foldl_nil]
    exact scene_after ih m

theorem ordered_after (h : ps.Ordered (·.id)) (m : Move) : (ps.after m).Ordered (·.id) := by
  cases m with
  | join c x =>
    rw [after]
    split
    · exact h.update fun _ => rfl
    · exact h.insert fun _ => rfl
  | leave c x => exact h.update fun _ => rfl

theorem ordered_foldl (ms : List Move) : (ms.foldl after ({} : Participants)).Ordered (·.id) := by
  induction ms using List.reverseRecOn with
  | nil => exact .empty
  | append_singleton ms m ih =>
    rw [List.foldl_append, List.foldl_cons, List.foldl_nil]
    exact ordered_after ih m

/-- **The order of rows** by the time at which they were made, and at the same time by their ids. -/
def inOrder (clock : Int → Int) (p q : Participant) : Bool :=
  clock p.id < clock q.id || (clock p.id = clock q.id && p.id ≤ q.id)

/-- The rows are in order with a clock that does not run backwards. -/
theorem mergeSort_rows {clock : Int → Int} (hclock : ∀ i j, i ≤ j → clock i ≤ clock j)
    (h : ps.Ordered (·.id)) : ps.rows.mergeSort (inOrder clock) = ps.rows := by
  refine List.mergeSort_of_pairwise (h.increasing.imp fun {p q} hlt => ?_)
  have hle := hclock p.id q.id (Int.le_of_lt hlt)
  simp only [inOrder, Bool.or_eq_true, Bool.and_eq_true, decide_eq_true_eq]
  omega

end Participants

/-! ## The store -/

namespace Store

variable {s : Store} {m : Move} {ms : List Move}

/-- **The store after a call.** -/
def act (s : Store) : Move → Except Failure Store
  | .join c x => s.join (some c) (some x)
  | .leave c x => return (← s.leave (some c) (some x)).1

/-- **A call that the store takes**: its numbers fit, and who joins and what it joins are there. -/
structure Admits (s : Store) (m : Move) : Prop where
  fits : fits m.conversation = true ∧ fits m.character = true
  there : m.isJoin = true →
    s.hasConversation m.conversation = true ∧ s.hasCharacter m.character = true

instance (s : Store) (m : Move) : Decidable (s.Admits m) :=
  decidable_of_iff ((Store.fits m.conversation = true ∧ Store.fits m.character = true) ∧
      (m.isJoin = true →
        s.hasConversation m.conversation = true ∧ s.hasCharacter m.character = true))
    ⟨fun ⟨h₁, h₂⟩ => ⟨h₁, h₂⟩, fun h => ⟨h.fits, h.there⟩⟩

/-- The store with other participants. -/
def withParticipants (s : Store) (participants : Participants) : Store :=
  { s with participants }

/-- **Such a call is taken**, and changes only the table of participants. -/
theorem act_eq (hopen : s.isClosed = false) (h : s.Admits m) :
    s.act m = .ok (s.withParticipants (Participants.after s.participants m)) := by
  have haccept : s.accept [some m.conversation, some m.character] = .ok () :=
    accept_eq_ok_iff.mpr ⟨hopen, by simpa using h.fits⟩
  cases m with
  | join c x =>
    have hthere : requireRow (s.hasConversation c && s.hasCharacter x) = .ok () := by
      rw [requireRow_eq_ok_iff, Bool.and_eq_true]
      exact h.there rfl
    have haccept : s.accept [some c, some x] = .ok () := haccept
    rw [act, join, haccept, Participants.after]
    by_cases hp : s.participants.rows.any (isParticipant (some c) (some x)) = true
    · simp only [bind, Except.bind, require, hp, if_true]
      rfl
    · simp only [bind, Except.bind, require, hp, hthere]
      rfl
  | leave c x =>
    have haccept : s.accept [some c, some x] = .ok () := haccept
    rw [act, leave, isInScene, haccept]
    rfl

/-- **All such calls are taken**, one after the other. -/
theorem foldlM_act (hopen : s.isClosed = false) (h : ∀ m ∈ ms, s.Admits m) :
    ms.foldlM act s = .ok (s.withParticipants (ms.foldl Participants.after s.participants)) := by
  induction ms generalizing s with
  | nil => rfl
  | cons m ms ih =>
    have hrest : ∀ n ∈ ms, (s.withParticipants (Participants.after s.participants m)).Admits n :=
      fun n hn => ⟨(h n (List.mem_cons_of_mem m hn)).fits, (h n (List.mem_cons_of_mem m hn)).there⟩
    rw [List.foldlM_cons, act_eq hopen (h m List.mem_cons_self)]
    exact ih hopen hrest

/-! ## What is read -/

section Reading

variable {c x : Int}

/-- Whether a character is in a scene. -/
theorem isInScene_of_told (hopen : s.isClosed = false) (hc : fits c = true) (hx : fits x = true)
    (h : Participants.scene s.participants c = Participants.told ms c) :
    s.isInScene (some c) (some x) = .ok (Move.present ms c x) := by
  have haccept : s.accept [some c, some x] = .ok () :=
    accept_eq_ok_iff.mpr ⟨hopen, by simpa using ⟨hc, hx⟩⟩
  have hany : (s.participants.rows.any fun p =>
      isParticipant (some c) (some x) p && p.active) = Move.present ms c x := by
    rw [Bool.eq_iff_iff, Participants.any_active, h, Participants.mem_told]
  rw [isInScene, haccept]
  exact congrArg _ hany

/-- A cast is read off the rows of its conversation. -/
theorem cast_eq (s : Store) (c : Int) (activeOnly : Bool) : s.cast (some c) activeOnly =
    ((Participants.scene s.participants c).filter fun e => e.2 || !activeOnly).filterMap
      fun e => s.characters.find? (·.id = e.1) := by
  rw [cast, Participants.scene, List.filter_map, List.filterMap_map, Table.filter, Table.filter,
    List.filter_filter]
  simp only [Option.some.injEq, Bool.and_comm, Function.comp_def]

/-- **The characters of a scene** are those that joined, each of them found. -/
theorem cast_of_told (h : Participants.scene s.participants c = Participants.told ms c)
    (hthere : ∀ x ∈ Move.joined ms c, s.hasCharacter x = true) (activeOnly : Bool) :
    (s.cast (some c) activeOnly).map some =
      ((Move.joined ms c).filter fun x => Move.present ms c x || !activeOnly).map
        fun x => s.characters.find? (·.id = x) := by
  rw [cast_eq, h, Participants.told, List.filter_map, List.filterMap_map,
    List.map_filterMap_some_eq_filter_map_isSome]
  refine List.filter_eq_self.mpr fun o ho => ?_
  obtain ⟨x, hx, rfl⟩ := List.mem_map.mp ho
  have hfound : s.hasCharacter x = true := hthere x (List.mem_filter.mp hx).1
  exact List.find?_isSome.mpr (List.any_eq_true.mp hfound)

/-- **The primary character** is the one that is set, or else the first that is in the scene. -/
theorem primaryCharacter?_eq (h : s.accept [some c] = .ok ()) :
    s.primaryCharacter? (some c) = .ok ((s.characters.find? fun x =>
      some x.id = (s.conversations.find? fun v => some v.id = some c).bind (·.primary)).or
        (s.cast (some c) true).head?) := by
  rw [primaryCharacter?, h]
  simp only [bind, Except.bind]
  split
  · next hset => rw [hset, Option.some_or]; rfl
  · next hset => rw [hset, Option.none_or]; rfl

/-- **What is read of a scene** is read off its rows. -/
theorem reads_withParticipants (s : Store) {ps : Participants} {c : Int}
    (h : ps.scene c = Participants.scene s.participants c) :
    (∀ x : Int, (s.withParticipants ps).isInScene (some c) (some x) =
      s.isInScene (some c) (some x)) ∧
    (s.withParticipants ps).activeCast (some c) = s.activeCast (some c) ∧
    (s.withParticipants ps).wholeCast (some c) = s.wholeCast (some c) ∧
    (s.withParticipants ps).primaryCharacter? (some c) = s.primaryCharacter? (some c) := by
  have hcast : ∀ b, (s.withParticipants ps).cast (some c) b = s.cast (some c) b := by
    intro b
    rw [cast_eq, cast_eq, ← h]
    rfl
  refine ⟨fun x => ?_, ?_, ?_, ?_⟩
  · have hany : (ps.rows.any fun p => isParticipant (some c) (some x) p && p.active) =
        s.participants.rows.any fun p => isParticipant (some c) (some x) p && p.active := by
      rw [Bool.eq_iff_iff, Participants.any_active, Participants.any_active, h]
    simp only [isInScene, withParticipants, hany]
    rfl
  · simp only [activeCast, hcast]
    rfl
  · simp only [wholeCast, hcast]
    rfl
  · simp only [primaryCharacter?, hcast]
    rfl

end Reading

/-- **The cast of a scene, after any calls**, in a store in which there was none. -/
theorem cast_of_moves (hopen : s.isClosed = false) (hempty : s.participants = {})
    (hms : ∀ m ∈ ms, s.Admits m) {c : Int} (hc : fits c = true) :
    ∃ t, ms.foldlM act s = .ok t ∧
      (∀ x, fits x = true → t.isInScene (some c) (some x) = .ok (Move.present ms c x) ∧
        ∃ u, t.leave (some c) (some x) = .ok (u, Move.present ms c x)) ∧
      (Move.joined ms c).Nodup ∧
      (∃ active whole, t.activeCast (some c) = .ok active ∧ t.wholeCast (some c) = .ok whole ∧
        active.map some = ((Move.joined ms c).filter (Move.present ms c)).map
          (fun x => s.characters.find? (·.id = x)) ∧
        whole.map some = (Move.joined ms c).map (fun x => s.characters.find? (·.id = x)) ∧
        t.primaryCharacter? (some c) = .ok ((s.characters.find? fun x =>
          some x.id = (s.conversations.find? fun v => some v.id = some c).bind (·.primary)).or
            active.head?)) ∧
      (∀ m, s.Admits m → m.conversation ≠ c → ∃ u, t.act m = .ok u ∧
        (∀ x : Int, u.isInScene (some c) (some x) = t.isInScene (some c) (some x)) ∧
        u.activeCast (some c) = t.activeCast (some c) ∧
        u.wholeCast (some c) = t.wholeCast (some c) ∧
        u.primaryCharacter? (some c) = t.primaryCharacter? (some c)) ∧
      ∀ clock : Int → Int, (∀ i j, i ≤ j → clock i ≤ clock j) →
        t.participants.rows.mergeSort (Participants.inOrder clock) = t.participants.rows := by
  refine ⟨_, foldlM_act hopen hms, ?_⟩
  rw [hempty]
  have hscene := Participants.scene_foldl ms c
  have hordered := Participants.ordered_foldl ms
  generalize ms.foldl Participants.after {} = ps at hscene hordered
  have hthere : ∀ x ∈ Move.joined ms c, s.hasCharacter x = true :=
    fun x hx => ((hms _ (Move.mem_joined.mp hx)).there rfl).2
  have haccept : (s.withParticipants ps).accept [some c] = .ok () :=
    accept_eq_ok_iff.mpr ⟨hopen, by simpa using hc⟩
  refine ⟨fun x hx => ?_, Move.nodup_joined ms c, ?_, fun m hm hne => ?_, fun clock hclock => ?_⟩
  · have hin : (s.withParticipants ps).isInScene (some c) (some x) = .ok (Move.present ms c x) :=
      isInScene_of_told hopen hc hx hscene
    refine ⟨hin, (s.withParticipants ps).setPresent (some c) (some x) false, ?_⟩
    rw [leave, hin]
    rfl
  · have hcast := @cast_of_told (s.withParticipants ps) ms c hscene hthere
    refine ⟨(s.withParticipants ps).cast (some c) true, (s.withParticipants ps).cast (some c) false,
      ?_, ?_, ?_, ?_, ?_⟩
    · rw [activeCast, haccept]
      rfl
    · rw [wholeCast, haccept]
      rfl
    · rw [hcast true]
      simp only [Bool.not_true, Bool.or_false]
      rfl
    · rw [hcast false]
      simp only [Bool.not_false, Bool.or_true, List.filter_true]
      rfl
    · exact primaryCharacter?_eq haccept
  · obtain ⟨hin, hactive, hwhole, hprimary⟩ :=
      (s.withParticipants ps).reads_withParticipants (Participants.scene_after_of_ne hne ps)
    exact ⟨_, act_eq hopen ⟨hm.fits, hm.there⟩, hin, hactive, hwhole, hprimary⟩
  · exact Participants.mergeSort_rows hclock hordered

/-- A character that leaves one scene and comes back, and one that leaves another. -/
theorem cast_of_moves_rejoined :
    let s : Store := {
      characters := ⟨3, [{ id := 1, name := "Aria" }, { id := 2, name := "Bram" },
        { id := 3, name := "Cora" }]⟩
      conversations := ⟨2, [{ id := 1, user := 1 }, { id := 2, user := 1, primary := some 3 }]⟩ }
    let ms : List Move :=
      [.join 1 1, .join 1 2, .leave 1 1, .join 2 1, .join 1 3, .join 1 1, .leave 2 1, .leave 1 3]
    ∃ t, ms.foldlM act s = .ok t ∧ t.isInScene (some 1) (some 1) = .ok true ∧
      t.activeCast (some 1) = .ok [{ id := 1, name := "Aria" }, { id := 2, name := "Bram" }] := by
  intro s ms
  obtain ⟨t, hrun, hin, -, ⟨active, -, hactive, -, hids, -⟩, -⟩ :=
    @cast_of_moves s ms rfl rfl (by decide) 1 (by decide)
  refine ⟨t, hrun, (hin 1 (by decide)).1, ?_⟩
  have hlist : active.map some =
      [{ id := 1, name := "Aria" }, { id := 2, name := "Bram" }].map some := hids
  rw [hactive, (List.map_inj_right fun _ _ => Option.some.inj).mp hlist]

end Store

end Roleplay
