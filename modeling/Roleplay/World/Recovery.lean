import Roleplay.World.Sheet

/-!
# Recovering a state from prose

A model is asked for a world sheet and answers with something like one. The answer is read line by
line. What a line means depends on where the reading stands: the entity that was selected last and
the list that is open. A line is classified by that position alone, and then recorded.

* A label with nothing after its colon is a header. Where it is or contains a display name, it
  selects that entity; under a selected entity any other header opens a list.
* A label with a value is an item of the open list, otherwise a text of the selected entity.
* A bulleted line under an open list is an item; an indented label with nothing after its colon is
  an item too, unless it is a display name.
* A blank line or a header closes the open list. What comes before any entity, and what is none of
  these, is dropped.

## Main definitions

* `EntityNames`, `EntityNames.match?`: the entity that a label names
* `Position`, `Line`, `Position.classify`: what a line means where the reading stands
* `WorldState.record`: what a line adds
* `WorldState.recover`: the state of an answer
* `WorldState.recoverContent?`: the same, when there is anything in it
-/

namespace Roleplay

/-- **The names that select entities**: display names in small letters with the keys they
select. -/
abbrev EntityNames := List (Text × Text)

namespace EntityNames

/-- The names of display names that are not blank. -/
def ofLabels (labels : Labels) : EntityNames :=
  (labels.map fun (key, display) => (display.strip.lower, key)).filter (!·.1.isEmpty)

/-- Whether a label is a display name. -/
def isExact (names : EntityNames) (label : Text) : Bool :=
  names.any (·.1 = label.lower)

/-- The entry with the longest name, the first of equally long ones. -/
def longest? : EntityNames → Option (Text × Text)
  | [] => none
  | n :: ns =>
    match longest? ns with
    | none => some n
    | some m => if n.1.length < m.1.length then some m else some n

/-- **The entity that a label names**: the one whose name it is, otherwise the one with the
longest name that it contains. -/
def match? (names : EntityNames) (label : Text) : Option Text :=
  match names.find? (·.1 = label.lower) with
  | some (_, key) => some key
  | none => (longest? (names.filter fun n => label.lower.contains n.1)).map (·.2)

/-- The entity that a header selects; an empty key selects none. -/
def select? (names : EntityNames) (label : Text) : Option Text :=
  (names.match? label).filter (!·.isEmpty)

end EntityNames

/-- The characters that mark a bulleted line. -/
def isBullet (c : Char) : Bool :=
  c == '-' || c == '*' || c == '•' || c == '+'

/-- What follows the bullet of a line, when there is one: a mark and a space, or a mark alone. -/
def dropBullet? : Text → Option Text
  | [c] => if isBullet c then some [] else none
  | c :: ' ' :: t => if isBullet c then some (Text.strip t) else none
  | _ => none

/-- The two sides of the first colon of a line, stripped, when it does not begin with it. -/
def splitColon? (line : Text) : Option (Text × Text) :=
  match line.cut? [':'] with
  | some (c :: label, value) => some (Text.strip (c :: label), value.strip)
  | _ => none

/-- The marks of emphasis. -/
def isEmphasis (c : Char) : Bool :=
  c == '*' || c == '_' || c == '`'

/-- A label without its blanks, its marks of emphasis and of headings. -/
def cleanLabel (t : Text) : Text :=
  (t.strip.stripWhere fun c => isEmphasis c || c == '#').strip

/-- A value without its blanks and its marks of emphasis. -/
def cleanValue (t : Text) : Text :=
  (t.strip.stripWhere isEmphasis).strip

/-- **Where the reading stands**: the selected entity and the open list. -/
structure Position where
  entity : Option Text
  list : Option Text
deriving DecidableEq, Repr

/-- The position before the first line. -/
def Position.start : Position := ⟨none, none⟩

/-- **What a line means**: it closes the open list, is dropped, selects an entity, opens a list of
an entity, or gives an item of a list or a text of an entity. -/
inductive Line
  | blank
  | dropped
  | header (entity : Text)
  | opening (entity list : Text)
  | item (entity list : Text) (item : Item)
  | text (entity name value : Text)
deriving DecidableEq, Repr

/-- What a label with nothing after its colon means. -/
def Position.classifyHeader (p : Position) (names : EntityNames) (indented : Bool) (label : Text) :
    Line :=
  match p.entity, p.list, indented && !names.isExact label with
  | some e, some l, true => .item e l ⟨label, []⟩
  | _, _, _ =>
    match names.select? label, p.entity with
    | some e, _ => .header e
    | none, some e => .opening e label.lower
    | none, none => .dropped

/-- What a label with a value means. -/
def Position.classifyPair (p : Position) (label value : Text) : Line :=
  match p.entity, p.list with
  | some e, some l => .item e l ⟨label, value⟩
  | some e, none => .text e label.lower value
  | none, _ => .dropped

/-- **What a line means** where the reading stands. -/
def Position.classify (p : Position) (names : EntityNames) (raw : Text) : Line :=
  let line := raw.strip
  let indented := raw.head?.any Text.isBlank
  let bullet := dropBullet? line
  if line.isEmpty then .blank
  else match splitColon? (bullet.getD line) with
    | none => .dropped
    | some (label, value) =>
      let label := cleanLabel label
      let value := cleanValue value
      if label.isEmpty then .dropped
      else match bullet, p.entity, p.list with
        | some _, some e, some l => .item e l ⟨label, value⟩
        | _, _, _ =>
          if value.isEmpty then p.classifyHeader names indented label
          else p.classifyPair label value

/-- The position after a line. -/
def Position.after (p : Position) : Line → Position
  | .blank => { p with list := none }
  | .header e => ⟨some e, none⟩
  | .opening e l => ⟨some e, some l⟩
  | _ => p

/-- The entity with a list of a name; a text of that name becomes one. -/
def Entity.openList (e : Entity) (name : Text) : Entity :=
  match e.find? name with
  | some ⟨_, .list _⟩ => e
  | _ => e.set ⟨name, .list []⟩

/-- The entity with a text of a name, unless it has a list of that name. -/
def Entity.putText (e : Entity) (name value : Text) : Entity :=
  match e.find? name with
  | some ⟨_, .list _⟩ => e
  | _ => e.set ⟨name, .text value⟩

/-- **What a line adds** to a state. -/
def WorldState.record (s : WorldState) : Line → WorldState
  | .opening e l => s.modify e (·.openList l)
  | .item e l i => s.modify e (·.append l i)
  | .text e n v => s.modify e (·.putText n v)
  | _ => s

/-- A line read: the position after it and the state with what it adds. -/
def readLine (names : EntityNames) : Position × WorldState → Text → Position × WorldState
  | (p, s), raw =>
    let line := p.classify names raw
    (p.after line, s.record line)

/-- **The state of an answer.** -/
def WorldState.recover (labels : Labels) (t : Text) : WorldState :=
  (t.lines.foldl (readLine (.ofLabels labels)) (.start, .empty)).2

/-- The state of an answer, when there is anything in it. -/
def WorldState.recoverContent? (labels : Labels) (t : Text) : Option WorldState :=
  let s := recover labels t
  if s.hasContent then some s else none

end Roleplay
