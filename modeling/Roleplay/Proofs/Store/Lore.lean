import Roleplay.Proofs.Lore
import Roleplay.Proofs.Store.Tables
import Roleplay.Store.LoreEntries

/-!
# Lore and whom it is for

An entry of lore is made for a user, and for one of the characters or for all. Whom it is for is
never changed afterwards; a change and a deletion name the entry by its id alone, and an id is given
once. So what becomes of an entry is told by the calls that name its id after it was made, and what
a prompt is told for a user and a character is told by the entries that were made for them: their
contents as they are now, in the order in which they were made, without those that are deleted,
disabled or not called up by the turns.

What is done to the entries of others is not felt. Two histories that leave the entries for a user
and a character alike give the same block for any turns, though the ids in them may be different,
since the entries of others take ids too.

Ids count up from one, so that the number zero is that of no user, and a prompt without a user has
no lore.

## Main definitions

* `LoreCall`, `LoreChange`, `LoreCall.change?`: the calls, and the changes that they make
* `LoreEntry.after`: what becomes of an entry
* `Lore.created`, `Lore.current`: the entries that are made, and those for a user and a character
* `Lore.block`: contents as a block of a prompt
* `LoreChange.Spares`: a change that is about other entries

## Main results

* `Store.callLore_eq`, `Store.foldl_callLore`: what one call and all calls change
* `Lore.rows_after`, `Lore.rows_foldl`: the rows after one change and after all
* `Lore.filter_isFor_rows`, `Lore.filter_after`: the rows for a user and a character, and what
  changes none of them
* `Store.loreContext_withLore`: what a prompt is told, by the rows
* `Store.lore_of_calls`: what it is told, after any calls
-/

namespace Roleplay

/-! ## The calls -/

/-- **A call** that makes, changes or deletes an entry of lore. -/
inductive LoreCall
  | create (user : Option Int) (keywords content : Option Text) (character : Option Int)
  | update (id : Option Int) (keywords content : Option Text) (enabled : Bool)
  | delete (id : Option Int)

/-- **A change of lore.** -/
inductive LoreChange
  | create (user : Int) (keywords content : Text) (character : Option Int)
  | update (id : Int) (keywords content : Text) (enabled : Bool)
  | delete (id : Int)

/-- **The change that a call makes** when everything is given and its numbers fit. Any other call
fails, or names no entry. -/
def LoreCall.change? : LoreCall → Option LoreChange
  | .create (some user) (some keywords) (some content) character =>
    if Store.fits user && character.all Store.fits then
      some (.create user keywords content character)
    else none
  | .update (some id) (some keywords) (some content) enabled =>
    if Store.fits id then some (.update id keywords content enabled) else none
  | .delete (some id) => if Store.fits id then some (.delete id) else none
  | _ => none

namespace LoreChange

/-- The entry that a change makes. -/
def made (id : Int) : LoreChange → Option LoreEntry
  | .create user keywords content character => some { id, user, keywords, content, character }
  | _ => none

/-- **What a change makes of an entry** that is there. -/
def on (e : LoreEntry) : LoreChange → Option LoreEntry
  | .create _ _ _ _ => some e
  | .update id keywords content enabled =>
    some (if e.id = id then { e with keywords, content, enabled } else e)
  | .delete id => if e.id = id then none else some e

end LoreChange

namespace LoreEntry

/-- **What becomes of an entry** under changes, unless it is deleted. -/
def after (e : LoreEntry) (cs : List LoreChange) : Option LoreEntry :=
  cs.foldlM LoreChange.on e

/-- **Whom an entry is for**: a user, and everyone or a character. -/
def IsFor (user character : Option Int) (e : LoreEntry) : Prop :=
  some e.user = user ∧ (e.character = none ∨ e.character = character)

instance (user character : Option Int) (e : LoreEntry) : Decidable (e.IsFor user character) :=
  inferInstanceAs (Decidable (_ ∧ _))

end LoreEntry

namespace Lore

/-- **The entries that changes make**, each with the changes after it. -/
def created : (lastId : Int) → List LoreChange → List (LoreEntry × List LoreChange)
  | _, [] => []
  | n, c :: cs =>
    match c.made (n + 1) with
    | some e => (e, cs) :: created (n + 1) cs
    | none => created n cs

/-- **The entries for a user and a character** that changes leave, as they are then, in the order in
which they were made. -/
def current (cs : List LoreChange) (user character : Option Int) : List LoreEntry :=
  ((created 0 cs).filter fun c => c.1.IsFor user character).filterMap fun c => c.1.after c.2

/-- Whether the newest turns say a keyword of an entry. -/
def isSaid (turns : List Text) (e : LoreEntry) : Bool :=
  e.keywordList.any (saysWord (Text.join ['\n'] (newest scanDepth turns)))

/-- **Contents as a block of a prompt**, empty when there are none. -/
def block (contents : List Text) : Text :=
  if contents = [] then []
  else "[World Info]\n".toList ++ Text.join ['\n', '\n'] (contents.map Text.strip)

/-- The table after a change. -/
def after (t : Table LoreEntry) : LoreChange → Table LoreEntry
  | .create user keywords content character =>
    (t.insert fun id => { id, user, keywords, content, character }).1
  | .update id keywords content enabled =>
    t.update (fun e => e.id = id) fun e => { e with keywords, content, enabled }
  | .delete id => t.remove fun e => e.id = id

end Lore

/-! ## What becomes of an entry -/

namespace LoreEntry

variable {e f : LoreEntry} {c : LoreChange} {cs : List LoreChange} {user character : Option Int}

theorem after_cons (e : LoreEntry) (c : LoreChange) (cs : List LoreChange) :
    e.after (c :: cs) = (c.on e).bind (·.after cs) := rfl

/-- **Whom an entry is for** is not changed. -/
theorem isFor_on (h : c.on e = some f) : f.IsFor user character ↔ e.IsFor user character := by
  cases c with
  | create u k t ch =>
    cases h
    rfl
  | update id k t en =>
    rw [LoreChange.on] at h
    split at h <;> cases h <;> rfl
  | delete id =>
    rw [LoreChange.on] at h
    split at h <;> cases h
    rfl

theorem isFor_after (h : e.after cs = some f) :
    f.IsFor user character ↔ e.IsFor user character := by
  induction cs generalizing e with
  | nil =>
    cases h
    rfl
  | cons c cs ih =>
    rw [after_cons] at h
    obtain ⟨g, hg, h⟩ := Option.bind_eq_some_iff.mp h
    rw [ih h, isFor_on hg]

end LoreEntry

/-! ## The rows -/

namespace Lore

variable {t : Table LoreEntry} {c : LoreChange} {cs : List LoreChange}
  {user character : Option Int}

theorem lastId_after (t : Table LoreEntry) (c : LoreChange) :
    (after t c).lastId = if (c.made (t.lastId + 1)).isSome then t.lastId + 1 else t.lastId := by
  cases c <;> rfl

/-- **The rows after a change**: what it makes of those that were there, and the one it makes. -/
theorem rows_after (t : Table LoreEntry) (c : LoreChange) :
    (after t c).rows = t.rows.filterMap (LoreChange.on · c) ++ (c.made (t.lastId + 1)).toList := by
  cases c with
  | create u k ct ch =>
    have hsame : t.rows.filterMap (LoreChange.on · (.create u k ct ch)) = t.rows :=
      List.filterMap_some
    rw [hsame]
    rfl
  | update id k ct en =>
    have hnone : (LoreChange.update id k ct en).made (t.lastId + 1) = none := rfl
    rw [hnone, Option.toList_none, List.append_nil]
    show t.rows.map _ = _
    rw [← List.filterMap_eq_map]
    refine List.filterMap_congr fun e _ => ?_
    simp [LoreChange.on]
  | delete id =>
    have hnone : (LoreChange.delete id).made (t.lastId + 1) = none := rfl
    rw [hnone, Option.toList_none, List.append_nil]
    show t.rows.filter _ = _
    rw [← List.filterMap_eq_filter]
    refine List.filterMap_congr fun e _ => ?_
    by_cases he : e.id = id <;> simp [LoreChange.on, Option.guard, he]

/-- **The rows after changes**: what has become of those that were there, and of those that were
made. -/
theorem rows_foldl (t : Table LoreEntry) (cs : List LoreChange) :
    (cs.foldl after t).rows = t.rows.filterMap (·.after cs) ++
      (created t.lastId cs).filterMap fun c => c.1.after c.2 := by
  induction cs generalizing t with
  | nil => simp [created, LoreEntry.after]
  | cons c cs ih =>
    rw [List.foldl_cons, ih, rows_after, lastId_after, List.filterMap_append,
      List.filterMap_filterMap, created]
    simp only [LoreEntry.after_cons]
    rw [List.append_assoc]
    congr 1
    cases hmade : c.made (t.lastId + 1) with
    | none => simp
    | some e => cases hafter : e.after cs <;> simp [hafter]

/-- **The rows for a user and a character**, in a table that was empty. -/
theorem filter_isFor_rows (cs : List LoreChange) (user character : Option Int) :
    ((cs.foldl after {}).filter fun e => e.IsFor user character) = current cs user character := by
  rw [Table.filter, rows_foldl, current]
  show ((created 0 cs).filterMap fun c => c.1.after c.2).filter _ = _
  rw [List.filter_filterMap, List.filterMap_filter]
  refine List.filterMap_congr fun c _ => ?_
  -- an entry is for whom it was made
  cases hafter : c.1.after c.2 with
  | none => simp
  | some e =>
    have hfor : e.IsFor user character ↔ c.1.IsFor user character := LoreEntry.isFor_after hafter
    simp only [Option.filter_some, hfor]

/-! ## What a prompt is told -/

/-- **The block of a prompt** has the contents of the entries that are enabled and called up. -/
theorem context_eq (es : List LoreEntry) (turns : List Text) :
    context es turns =
      block (((es.filter (·.enabled)).filter (isSaid turns)).map (·.content)) := by
  have hmatching :
      matching scanDepth es turns = (es.filter (·.enabled)).filter (isSaid turns) := by
    rw [matching_eq_filter, List.filter_filter]
    exact List.filter_congr fun e _ => Bool.and_comm _ _
  rw [context, hmatching, block]
  generalize (es.filter (·.enabled)).filter (isSaid turns) = called
  cases called with
  | nil => rfl
  | cons e called => simp [Function.comp_def]

/-- **Entries that are alike** in their keywords and contents are called up alike. -/
theorem said_congr {es fs : List LoreEntry}
    (h : es.map (fun e => (e.keywords, e.content)) = fs.map fun e => (e.keywords, e.content))
    (turns : List Text) :
    (es.filter (isSaid turns)).map (·.content) = (fs.filter (isSaid turns)).map (·.content) := by
  induction es generalizing fs with
  | nil => rw [List.map_eq_nil_iff.mp h.symm]
  | cons e es ih =>
    cases fs with
    | nil => cases h
    | cons f fs =>
      obtain ⟨hhead, hrest⟩ := List.cons.inj h
      obtain ⟨hkeywords, hcontent⟩ := Prod.mk.inj hhead
      have hsaid : isSaid turns e = isSaid turns f := by
        rw [isSaid, isSaid, LoreEntry.keywordList, LoreEntry.keywordList, hkeywords]
      rw [List.filter_cons, List.filter_cons, hsaid]
      split
      · rw [List.map_cons, List.map_cons, hcontent, ih hrest]
      · exact ih hrest

end Lore

/-! ## The entries of others -/

/-- **A change about other entries** than those of a list, which are for a user and a character. -/
def LoreChange.Spares (es : List LoreEntry) (user character : Option Int) : LoreChange → Prop
  | .create u _ _ ch => ¬ (some u = user ∧ (ch = none ∨ ch = character))
  | .update id _ _ _ => ∀ e ∈ es, e.id ≠ id
  | .delete id => ∀ e ∈ es, e.id ≠ id

theorem LoreChange.Spares.on {c : LoreChange} {es : List LoreEntry} {user character : Option Int}
    (h : c.Spares es user character) {e : LoreEntry} (he : e ∈ es) : c.on e = some e := by
  cases c with
  | create u k t ch => rfl
  | update id k t en => exact congrArg some (if_neg (h e he))
  | delete id => exact if_neg (h e he)

/-- **Such a change is not felt.** -/
theorem Lore.filter_after {t : Table LoreEntry} {c : LoreChange} {user character : Option Int}
    (h : c.Spares (t.filter fun e => e.IsFor user character) user character) :
    ((after t c).filter fun e => e.IsFor user character) =
      t.filter fun e => e.IsFor user character := by
  have hold : (t.rows.filterMap (LoreChange.on · c)).filter (fun e => e.IsFor user character) =
      t.rows.filter fun e => e.IsFor user character := by
    rw [List.filter_filterMap, ← List.filterMap_eq_filter]
    refine List.filterMap_congr fun e he => ?_
    by_cases hfor : e.IsFor user character
    · have hmem : e ∈ t.filter fun e => e.IsFor user character :=
        List.mem_filter.mpr ⟨he, decide_eq_true hfor⟩
      simp [h.on hmem, Option.guard, hfor]
    · -- whoever it is for, it is none of these
      cases hon : c.on e with
      | none => simp [Option.guard, hfor]
      | some f =>
        have hf : ¬ f.IsFor user character := fun hf => hfor ((LoreEntry.isFor_on hon).mp hf)
        simp [Option.guard, hfor, hf]
  have hnew : (c.made (t.lastId + 1)).toList.filter (fun e => e.IsFor user character) = [] := by
    cases c with
    | create u k ct ch =>
      have hother : ¬ LoreEntry.IsFor user character ⟨t.lastId + 1, u, k, ct, ch, true⟩ := h
      simp [LoreChange.made, hother]
    | update id k ct en => rfl
    | delete id => rfl
  rw [Table.filter, rows_after, List.filter_append, hold, hnew, List.append_nil]
  rfl

/-! ## The store -/

namespace Store

variable {s : Store} {cs ds : List LoreCall}

/-- A call of the store. -/
def tryLore (s : Store) : LoreCall → Except Failure Store
  | .create user keywords content character =>
    return (← s.createLore user keywords content character).1
  | .update id keywords content enabled => s.updateLore id keywords content enabled
  | .delete id => s.deleteLore id

/-- **The store after a call.** A call that fails changes nothing. -/
def callLore (s : Store) (c : LoreCall) : Store :=
  (s.tryLore c).toOption.getD s

/-- The store with other lore. -/
def withLore (s : Store) (lore : Table LoreEntry) : Store :=
  { s with lore }

theorem callLore_create (hopen : s.isClosed = false) (user : Option Int)
    (keywords content : Option Text) (character : Option Int) :
    s.callLore (.create user keywords content character) =
      s.withLore (((LoreCall.create user keywords content character).change?).elim s.lore
        (Lore.after s.lore)) := by
  rw [callLore, tryLore, createLore, accept_of_open hopen]
  -- what is not given fails whether or not the numbers fit
  rcases user with _ | user
  · cases [none, character].all (·.all fits) <;> rfl
  rcases keywords with _ | keywords
  · cases [some user, character].all (·.all fits) <;> rfl
  rcases content with _ | content
  · cases [some user, character].all (·.all fits) <;> rfl
  have hfits : [some user, character].all (·.all fits) = (fits user && character.all fits) := by
    simp
  rw [hfits, LoreCall.change?]
  cases fits user && character.all fits <;> rfl

theorem callLore_update (hopen : s.isClosed = false) (id : Option Int)
    (keywords content : Option Text) (enabled : Bool) :
    s.callLore (.update id keywords content enabled) =
      s.withLore (((LoreCall.update id keywords content enabled).change?).elim s.lore
        (Lore.after s.lore)) := by
  rw [callLore, tryLore, updateLore, accept_of_open hopen]
  rcases id with _ | id
  · have hnone : (s.lore.rows.any fun e => some e.id = none) = false := by simp
    rw [hnone]
    rfl
  have hfits : [some id].all (·.all fits) = fits id := by simp
  simp only [hfits, Option.some.injEq]
  rcases keywords with _ | keywords
  · cases fits id <;> cases s.lore.rows.any (·.id = id) <;> rfl
  rcases content with _ | content
  · cases fits id <;> cases s.lore.rows.any (·.id = id) <;> rfl
  rw [LoreCall.change?]
  cases fits id with
  | false => rfl
  | true =>
    cases hany : s.lore.rows.any (·.id = id) with
    | false =>
      -- no entry is named, and the store is as it was
      have hlore : Lore.after s.lore (.update id keywords content enabled) = s.lore :=
        Table.update_eq_self hany _
      show s = s.withLore (Lore.after s.lore (.update id keywords content enabled))
      rw [hlore]
      rfl
    | true => rfl

theorem callLore_delete (hopen : s.isClosed = false) (id : Option Int) :
    s.callLore (.delete id) =
      s.withLore (((LoreCall.delete id).change?).elim s.lore (Lore.after s.lore)) := by
  rw [callLore, tryLore, deleteLore, accept_of_open hopen]
  rcases id with _ | id
  · have hnone : (s.lore.rows.any fun e => some e.id = none) = false := by simp
    rw [Table.remove_eq_self hnone]
    rfl
  have hfits : [some id].all (·.all fits) = fits id := by simp
  rw [LoreCall.change?]
  simp only [hfits, Option.some.injEq]
  cases fits id <;> rfl

/-- **What one call changes** in an open store. -/
theorem callLore_eq (hopen : s.isClosed = false) (c : LoreCall) :
    s.callLore c = s.withLore (c.change?.elim s.lore (Lore.after s.lore)) := by
  cases c with
  | create user keywords content character =>
    exact callLore_create hopen user keywords content character
  | update id keywords content enabled => exact callLore_update hopen id keywords content enabled
  | delete id => exact callLore_delete hopen id

/-- **What all calls change.** -/
theorem foldl_callLore (hopen : s.isClosed = false) (cs : List LoreCall) :
    cs.foldl callLore s =
      s.withLore ((cs.filterMap LoreCall.change?).foldl Lore.after s.lore) := by
  induction cs generalizing s with
  | nil => rfl
  | cons c cs ih =>
    have hopen' : ∀ lore, (s.withLore lore).isClosed = false := fun _ => hopen
    rw [List.foldl_cons, callLore_eq hopen, ih (hopen' _)]
    cases hc : c.change? with
    | none =>
      rw [List.filterMap_cons_none hc]
      rfl
    | some d =>
      rw [List.filterMap_cons_some hc]
      rfl

/-- **What a prompt is told** is read off the rows. -/
theorem loreContext_withLore (hopen : s.isClosed = false) {user character : Option Int}
    (hu : user.all fits = true) (hc : character.all fits = true) (lore : Table LoreEntry)
    (turns : List Text) :
    (s.withLore lore).loreContext user character turns =
      .ok (if user = none ∨ user = some 0 then []
        else Lore.block ((((lore.filter fun e => e.IsFor user character).filter
          (·.enabled)).filter (Lore.isSaid turns)).map (·.content))) := by
  have haccept : (s.withLore lore).accept [user, character] = .ok () :=
    accept_eq_ok_iff.mpr ⟨hopen, by simp [hu, hc]⟩
  have happlicable : (s.withLore lore).applicableLore user character =
      .ok ((lore.filter fun e => e.IsFor user character).filter (·.enabled)) := by
    rw [applicableLore, haccept]
    refine congrArg Except.ok ?_
    rw [Table.filter, Table.filter, List.filter_filter]
    refine List.filter_congr fun e _ => ?_
    have hfor : decide (e.IsFor user character) = (decide (some e.user = user) &&
        (e.character.isNone || decide (e.character = character))) := by
      rw [Bool.eq_iff_iff, decide_eq_true_iff]
      simp [LoreEntry.IsFor]
    rw [hfor, Bool.and_right_comm, Bool.and_comm]
  rw [loreContext, happlicable]
  split
  · rfl
  · refine congrArg Except.ok ?_
    have htwice : ∀ es : List LoreEntry,
        (es.filter (·.enabled)).filter (·.enabled) = es.filter (·.enabled) := by
      intro es
      rw [List.filter_filter]
      simp only [Bool.and_self]
    rw [Lore.context_eq, htwice]

/-- **The lore of a prompt, after any calls**, in a store in which there was none. A prompt is told
the contents of the entries that were made for its user and its character, as they are now, whatever
the numbers of the two are, as long as they fit. Two histories that leave these entries alike tell
the same, and a call about other entries is not felt. -/
theorem lore_of_calls (hopen : s.isClosed = false) (hempty : s.lore = {})
    {user character : Option Int} (hu : user.all fits = true) (hc : character.all fits = true) :
    let told := fun (cs : List LoreCall) turns =>
      (cs.foldl callLore s).loreContext user character turns
    let entries := fun (cs : List LoreCall) =>
      Lore.current (cs.filterMap LoreCall.change?) user character
    let enabled := fun cs => (entries cs).filter (·.enabled)
    (∀ cs turns, told cs turns = .ok (if user = none ∨ user = some 0 then []
      else Lore.block (((enabled cs).filter (Lore.isSaid turns)).map (·.content)))) ∧
    (∀ cs ds, (enabled cs).map (fun e => (e.keywords, e.content)) =
        (enabled ds).map (fun e => (e.keywords, e.content)) →
      ∀ turns, told cs turns = told ds turns) ∧
    ∀ cs c, (∀ d, c.change? = some d → d.Spares (entries cs) user character) →
      ∀ turns, told (cs ++ [c]) turns = told cs turns := by
  intro told entries enabled
  have hrows : ∀ cs : List LoreCall, (((cs.filterMap LoreCall.change?).foldl Lore.after
      s.lore).filter fun e => e.IsFor user character) = entries cs := by
    intro cs
    rw [hempty]
    exact Lore.filter_isFor_rows _ user character
  have htold : ∀ cs turns, told cs turns = .ok (if user = none ∨ user = some 0 then []
      else Lore.block (((enabled cs).filter (Lore.isSaid turns)).map (·.content))) := by
    intro cs turns
    show (cs.foldl callLore s).loreContext user character turns = _
    rw [foldl_callLore hopen, loreContext_withLore hopen hu hc, hrows]
  refine ⟨htold, fun cs ds halike turns => ?_, fun cs c hspares turns => ?_⟩
  · rw [htold, htold, Lore.said_congr halike]
  · have hentries : entries (cs ++ [c]) = entries cs := by
      rw [← hrows, ← hrows, List.filterMap_append]
      cases hchange : c.change? with
      | none =>
        rw [List.filterMap_cons_none hchange, List.filterMap_nil, List.append_nil]
      | some d =>
        have hd := hspares d hchange
        rw [← hrows] at hd
        rw [List.filterMap_cons_some hchange, List.filterMap_nil, List.foldl_append]
        exact Lore.filter_after hd
    rw [htold, htold]
    simp only [enabled, hentries]

/-- An entry for all characters that is changed, one for a character that nobody calls up, and one
of another user, which is deleted. -/
theorem lore_of_calls_tavern :
    let cs : List LoreCall := [
      .create (some 1) (some "inn") (some "The inn is old.") none,
      .create (some 1) (some "lute") (some "A lute of elm.") (some 7),
      .create (some 2) (some "inn, tavern") (some "The cellar has a door.") none,
      .update (some 1) (some "inn, tavern") (some "The inn has burned.") true]
    let told := fun (cs : List LoreCall) turns =>
      (cs.foldl callLore {}).loreContext (some 1) (some 7) turns
    told cs ["Where is the Tavern?"] = .ok ("[World Info]\nThe inn has burned." : Text) ∧
      ∀ turns, told (cs ++ [.delete (some 3)]) turns = told cs turns := by
  intro cs told
  obtain ⟨htold, -, hspared⟩ :=
    @lore_of_calls {} rfl rfl (some 1) (some 7) (by decide) (by decide)
  refine ⟨(htold cs _).trans (congrArg Except.ok (by decide +kernel)), hspared cs _ ?_⟩
  rintro d ⟨⟩
  show ∀ e ∈ Lore.current (cs.filterMap LoreCall.change?) (some 1) (some 7), e.id ≠ 3
  decide +kernel

end Store

end Roleplay
