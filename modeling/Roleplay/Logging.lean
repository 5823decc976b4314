import Roleplay.Text.Case

/-!
# Log lines

A record of the log becomes a line by a format, with a sign of its level in front.

## Main definitions

* `LogRecord`, `LogRecord.line`: a record and its line
* `levelName`, `levelOf?`: levels and their names
* `LogSetup`, `LogSetup.configure`: what is set up for the log
-/

namespace Roleplay

/-- The levels with their names, the first name of a level being its own. -/
def levels : List (Text × Int) :=
  [("CRITICAL", 50), ("FATAL", 50), ("ERROR", 40), ("WARNING", 30), ("WARN", 30), ("INFO", 20),
    ("DEBUG", 10), ("NOTSET", 0)]

/-- The name of a level. -/
def levelName (level : Int) : Text :=
  match levels.find? (·.2 = level) with
  | some (name, _) => name
  | none => "Level " ++ Text.ofInt level

/-- The level of a name, in any case of letters. -/
def levelOf? (name : Text) : Option Int :=
  levels.lookup name.upper

/-- The sign of a level, nothing for one between the named ones. -/
def levelSign (level : Int) : Text :=
  if level = 10 then ['🐛']
  else if level = 20 then ['✅']
  else if level = 30 then ['⚠', '\uFE0F']
  else if level = 40 then ['❌']
  else if level = 50 then ['🔥']
  else []

/-- **A record of the log.** -/
structure LogRecord where
  name : Text
  level : Int
  message : Text
deriving DecidableEq, Repr

namespace LogRecord

/-- The text of a field of a record. -/
def field? (r : LogRecord) (key : Text) : Option Text :=
  if key = "name".toList then some r.name
  else if key = "levelname".toList then some (levelName r.level)
  else if key = "levelno".toList then some (Text.ofInt r.level)
  else if key = "message".toList then some r.message
  else none

/-- The field that a format begins with, and the number of characters that name it. -/
def fieldAt? (r : LogRecord) : Text → Option (Text × Nat)
  | '%' :: '%' :: _ => some (['%'], 2)
  | '%' :: '(' :: t =>
    let key := t.takeWhile (· ≠ ')')
    match t.drop key.length with
    | ')' :: 's' :: _ => (r.field? key).map fun text => (text, key.length + 4)
    | _ => none
  | _ => none

/-- A format with the fields of a record put in; the first `skip` characters belong to a field that
is put in already. -/
def fillFrom (r : LogRecord) : (skip : Nat) → Text → Text
  | _, [] => []
  | skip + 1, _ :: t => fillFrom r skip t
  | 0, c :: t =>
    match r.fieldAt? (c :: t) with
    | some (text, n) => text ++ fillFrom r (n - 1) t
    | none => c :: fillFrom r 0 t

/-- **The line of a record** in a format. -/
def line (r : LogRecord) (format : Text) : Text :=
  levelSign r.level ++ ' ' :: r.fillFrom 0 format

end LogRecord

/-- **What is set up for the log**: the level, the number of places that lines go to, and the level
of what providers log. -/
structure LogSetup where
  level : Int
  handlers : Nat
  providerLevel : Int
deriving DecidableEq, Repr

/-- A level by number or by name; an unknown name means `INFO`. -/
inductive LevelChoice
  | number (level : Int)
  | name (t : Text)
deriving DecidableEq, Repr

/-- The level of a choice. -/
def LevelChoice.level : LevelChoice → Int
  | number level => level
  | name t => (levelOf? t).getD 20

/-- **Setting up the log** leaves one place for lines, whatever was set up before. -/
def LogSetup.configure (choice : LevelChoice) : LogSetup :=
  ⟨choice.level, 1, 30⟩

end Roleplay
