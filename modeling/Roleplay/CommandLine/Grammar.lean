import Roleplay.Entries
import Roleplay.Number.Numeral

/-!
# The grammar of arguments

Arguments are words and options. An option begins with a hyphen; its name may be cut short as long
as only one option is meant, and the text that it gives follows an equals sign or is the next word.
Behind the separator `--` everything is a word.

Reading first tells the tokens apart, all of them, and then goes through them from left to right:
words fill the values that a grammar asks for in their order, and options stand anywhere between.
What no value or option takes is left over, and nothing may be.

## Main definitions

* `Grammar`: the options and values that arguments may have
* `Token`, `Grammar.tokens`: arguments told apart
* `Reading`, `Reading.through`: what was read so far, and reading on
* `Grammar.read`: what arguments give
* `Grammar.lead`: the options in front of the first word, and the arguments behind it
-/

namespace Roleplay.CommandLine

/-- **Why arguments say nothing to be done**: they ask how the program is used, or they misuse
it. -/
inductive Advice
  | help
  | misuse
deriving DecidableEq, Repr

/-- The texts that a value may be. -/
inductive ValueKind
  | text
  | integer
  | oneOf (words : List Text)
deriving DecidableEq, Repr

/-- Whether a text may be a value. -/
def ValueKind.accepts : ValueKind → Text → Bool
  | text, _ => true
  | integer, t => (Numeral.integer t).toBool
  | oneOf words, t => decide (t ∈ words)

/-- What an option is there for: to ask how the program is used, to be there or not, or to give a
value. -/
inductive OptionKind
  | help
  | flag
  | value (kind : ValueKind)
deriving DecidableEq, Repr

/-- **The options and values that arguments may have**, by their names. -/
structure Grammar where
  options : Entries OptionKind := []
  values : Entries ValueKind := []
deriving DecidableEq, Repr

/-- The option that every grammar has, by its two names. -/
def helpOption : Entries OptionKind :=
  [("-h", .help), ("--help", .help)]

/-- All options of a grammar. -/
def Grammar.allOptions (g : Grammar) : Entries OptionKind :=
  helpOption ++ g.options

/-- **Arguments told apart.** An unknown option is not shown. -/
inductive Token
  | word (t : Text)
  | separator
  | option (name : Text) (kind : OptionKind) (attached : Option Text)
  | unknown
deriving DecidableEq, Repr

/-- Whether a character is a decimal digit of any script. -/
def isDigit (c : Char) : Bool :=
  (Text.decimalValue? c).isSome

/-- Whether what follows a hyphen makes a negative numeral, with a point or without. -/
def isNumeral (t : Text) : Bool :=
  let whole := t.takeWhile isDigit
  match t.drop whole.length with
  | [] => !whole.isEmpty
  | '.' :: fraction => !fraction.isEmpty && fraction.all isDigit
  | _ => false

/-- A text without one line feed at its end. -/
def withoutLineEnd (t : Text) : Text :=
  if t.getLast? = some '\n' then t.dropLast else t

/-- What begins with a hyphen and is no option: a negative numeral and a text with a space are
words, and all else is unknown. -/
def Token.ofOther (t : Text) : Token :=
  if isNumeral (withoutLineEnd (t.drop 1)) ∨ ' ' ∈ t then .word t else .unknown

/-- The name of an option, and the text attached to it by an equals sign. -/
def splitAttached (t : Text) : Text × Option Text :=
  match t.cut? ['='] with
  | none => (t, none)
  | some (name, attached) => (name, some attached)

/-- The one-letter option with more letters joined to it. Only its own letter can be repeated: a
hyphen or an equals sign behind it is a text that it does not take. -/
def Token.ofJoined (letters : Text) : Token :=
  let rest := letters.dropWhile (· = 'h')
  let takesNone := rest.head? = some '-' ∨ rest.head? = some '='
  .option "-h" .help (if takesNone then some rest else none)

namespace Grammar

/-- The options that a name means, when it may be cut short. -/
def candidates (g : Grammar) (name : Text) : Entries OptionKind :=
  g.allOptions.filter fun o => o.1.startsWith name

/-- **The token of an argument** other than the separator. -/
def token (g : Grammar) (t : Text) : Except Advice Token :=
  let (name, attached) := splitAttached t
  match t with
  | '-' :: c :: letters =>
    match g.allOptions.get? name with
    | some kind => .ok (.option name kind attached)
    | none =>
      if c = '-' then
        match g.candidates name with
        | [] => .ok (.ofOther t)
        | [(name, kind)] => .ok (.option name kind attached)
        | _ => .error .misuse
      else if c = 'h' then .ok (.ofJoined letters)
      else .ok (.ofOther t)
  | _ => .ok (.word t)

/-- **Arguments told apart.** Behind the first separator there are only words. -/
def tokens (g : Grammar) : List Text → Except Advice (List Token)
  | [] => .ok []
  | t :: ts =>
    if t = ['-', '-'] then .ok (.separator :: ts.map .word)
    else do return (← g.token t) :: (← g.tokens ts)

end Grammar

/-- What was read just before: a word that a value took, a separator that belongs to the next word,
or something else. -/
inductive Before
  | value
  | separator
  | other
deriving DecidableEq, Repr

/-- **What was read so far**: the values that are still missing, those that are given, and whether
something is left over. -/
structure Reading where
  missing : Entries ValueKind
  given : Entries Text := []
  before : Before := .other
  leftOver : Bool := false
deriving DecidableEq, Repr

namespace Reading

/-- A value given under a name. -/
def give (r : Reading) (name : Text) (kind : ValueKind) (t : Text) : Except Advice Reading :=
  if kind.accepts t then .ok { r with given := r.given.put name t } else .error .misuse

/-- Something that nothing takes. -/
def leave (r : Reading) : Reading :=
  { r with before := .other, leftOver := true }

/-- **A word**, taken by the first value that is missing. A second pair of hyphens is taken for
the separator of its value, so that it leaves the value without a text. -/
def word (r : Reading) (t : Text) : Except Advice Reading :=
  match r.missing with
  | [] => .ok r.leave
  | (name, kind) :: missing =>
    let r' := { r with missing, before := .value }
    if t = ['-', '-'] ∧ r.before ≠ .separator then .ok r' else r'.give name kind t

/-- **A separator**: it belongs to the word before it or to the one behind it, if a value takes
that. -/
def separator (r : Reading) : Reading :=
  if r.before = .value then r
  else { r with before := .separator, leftOver := r.leftOver || r.missing.isEmpty }

/-- **An option** with the text attached to it. -/
def option (r : Reading) (name : Text) (kind : OptionKind) (attached : Option Text) :
    Except Advice Reading :=
  let r := { r with before := .other }
  match kind, attached with
  | .help, none => .error .help
  | .flag, none => .ok { r with given := r.given.put name [] }
  | .value kind, some t => r.give name kind t
  | _, _ => .error .misuse

/-- **Reading on.** The text of an option that has none attached is the next word. -/
def through (r : Reading) : List Token → Except Advice Reading
  | [] => .ok r
  | .word t :: ts => do (← r.word t).through ts
  | .separator :: ts => r.separator.through ts
  | .unknown :: ts => r.leave.through ts
  | .option name (.value kind) none :: .word t :: ts => do
    (← r.option name (.value kind) (some t)).through ts
  | .option name kind attached :: ts => do (← r.option name kind attached).through ts

/-- What a reading gives, when nothing is missing and nothing is left over. -/
def finish (r : Reading) : Except Advice (Entries Text) :=
  if r.missing.isEmpty ∧ r.leftOver = false then .ok r.given else .error .misuse

end Reading

namespace Grammar

/-- **What arguments give**, by the names of options and values. -/
def read (g : Grammar) (arguments : List Text) : Except Advice (Entries Text) := do
  let reading : Reading := { missing := g.values }
  (← reading.through (← g.tokens arguments)).finish

/-- The options in front of the first word, and that word with what stands behind it. -/
def leadFrom : Reading → List (Token × Text) → Except Advice (Reading × Text × List Text)
  | r, (.word t, _) :: rest => .ok (r, t, rest.map (·.2))
  | r, (.option name kind attached, _) :: rest => do
    leadFrom (← r.option name kind attached) rest
  | r, (.unknown, _) :: rest => leadFrom r.leave rest
  | _, _ => .error .misuse

/-- **The options in front of the first word**, and that word with the arguments behind it. All
arguments must be such that they can be told apart. -/
def lead (g : Grammar) (arguments : List Text) : Except Advice (Reading × Text × List Text) := do
  leadFrom { missing := [] } ((← g.tokens arguments).zip arguments)

end Grammar

end Roleplay.CommandLine
