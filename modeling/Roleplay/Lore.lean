import Roleplay.Text.Alphanumeric
import Roleplay.Text.Blank
import Roleplay.Text.Fold

/-!
# Lore

An entry of lore is added to a prompt when one of its keywords was said in the newest turns. A
keyword counts as said where it stands as a whole word, in any case of letters.

## Main definitions

* `LoreEntry`, `LoreEntry.keywordList`: an entry and its keywords
* `newest depth turns`: the turns that are searched
* `saysWord t keyword`: `keyword` stands in `t` as a whole word
* `Lore.matching`: the entries that the turns call up
* `Lore.context`: their contents as a block of a prompt
-/

namespace Roleplay

/-- **An entry of lore**, of a user and for one character or for all. -/
structure LoreEntry where
  id : Int
  user : Int
  keywords : Text
  content : Text
  character : Option Int := none
  enabled : Bool := true
deriving DecidableEq, Repr

/-- **The keywords of an entry**: the pieces between commas, without blanks around them, those
that are not empty. -/
def LoreEntry.keywordList (e : LoreEntry) : List Text :=
  ((e.keywords.splitOn ',').map Text.strip).filter (!·.isEmpty)

/-- **The newest turns**: the last `depth` of them. A depth of zero means all of them, and a
negative one those after as many of the oldest. -/
def newest (depth : Int) (turns : List Text) : List Text :=
  if 0 < depth then turns.drop (turns.length - depth.toNat) else turns.drop (-depth).toNat

/-- Whether a keyword stands at the beginning of `t` as a whole word, `before` being the character
before it. -/
def startsWithWord (keyword : Text) (before : Option Char) (t : Text) : Bool :=
  match t.dropFolded? keyword with
  | none => false
  | some rest => !before.any Text.isWord && !rest.head?.any Text.isWord

/-- Whether a keyword stands in `t` as a whole word, `before` being the character before `t`. -/
def saysWordAfter (keyword : Text) : (before : Option Char) → Text → Bool
  | before, [] => startsWithWord keyword before []
  | before, c :: t => startsWithWord keyword before (c :: t) || saysWordAfter keyword (some c) t

/-- **Whether a keyword stands in a text as a whole word**, in any case of letters. -/
def saysWord (t keyword : Text) : Bool :=
  saysWordAfter keyword none t

namespace Lore

/-- Whether an entry is called up by a text. -/
def isCalled (t : Text) (e : LoreEntry) : Bool :=
  e.enabled && e.keywordList.any (saysWord t)

/-- **The entries that turns call up**, in their order. -/
def matching (depth : Int) (entries : List LoreEntry) (turns : List Text) : List LoreEntry :=
  let recent := Text.join ['\n'] (newest depth turns)
  if recent.isEmpty then [] else entries.filter (isCalled recent)

/-- The number of turns that are searched for a prompt. -/
def scanDepth : Int := 10

/-- **Lore as a block of a prompt**, empty when no entry is called up. -/
def context (entries : List LoreEntry) (turns : List Text) : Text :=
  let called := matching scanDepth entries turns
  if called.isEmpty then []
  else "[World Info]\n".toList ++ Text.join ['\n', '\n'] (called.map (·.content.strip))

end Lore

end Roleplay
