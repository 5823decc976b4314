import Roleplay.CommandLine.Grammar
import Roleplay.Files.Path
import Roleplay.Generation.Narration

/-!
# Commands

The arguments of the program are options, the verb of a command, and the arguments of the command,
whose grammar hangs on the verb.

## Main definitions

* `Verb`, `Verb.grammar`: what can be done, and the arguments for it
* `Command`, `Command.ofGiven?`: a command, from what its arguments give
* `Invocation`, `Invocation.ofArguments`: what the arguments of the program ask for
* `usage`: how the program is used
-/

namespace Roleplay

open CommandLine

/-- **What can be done.** -/
inductive Verb
  | new
  | chat
  | impersonate
  | narrate
  | world
deriving DecidableEq, Repr

namespace Verb

/-- The word of a verb. -/
def word : Verb → Text
  | new => "new"
  | chat => "chat"
  | impersonate => "impersonate"
  | narrate => "narrate"
  | world => "world"

/-- All verbs. -/
def all : List Verb :=
  [new, chat, impersonate, narrate, world]

/-- The verb with a word. -/
def ofWord? (w : Text) : Option Verb :=
  all.find? (·.word = w)

/-- A verb is the verb with its word. -/
@[simp] theorem ofWord?_word (v : Verb) : ofWord? v.word = some v := by
  cases v <;> decide

/-- An option that gives a text of some kind. -/
def optionOf (name : Text) (kind : ValueKind) : Text × OptionKind :=
  (name, .value kind)

/-- **The arguments of a verb.** -/
def grammar : Verb → Grammar
  | new =>
    { values := [("card", .text)]
      options := [optionOf "--user" .text, optionOf "--scenario" .text] }
  | chat => { values := [("conversation_id", .integer), ("message", .text)] }
  | impersonate =>
    { values := [("conversation_id", .integer)]
      options := [optionOf "--style" (.oneOf Prompt.impersonationStyles)] }
  | narrate =>
    { values := [("conversation_id", .integer), ("type", .oneOf Prompt.narrationKinds)]
      options := [optionOf "--character-id" .integer, optionOf "--item-owner" .text,
        optionOf "--item-name" .text, optionOf "--item-description" .text] }
  | world => { values := [("conversation_id", .integer)] }

end Verb

/-- **A command.** A message has no text when a separator was given in its place. -/
inductive Command
  | new (card : Path) (user : Text) (scenario : Option Text)
  | chat (conversation : Int) (message : Option Text)
  | impersonate (conversation : Int) (style : Text)
  | narrate (conversation : Int) (kind : Text) (item : Option ItemContext) (character : Option Int)
  | world (conversation : Int)
deriving DecidableEq, Repr

namespace Command

/-- The verb of a command. -/
def verb : Command → Verb
  | new .. => .new
  | chat .. => .chat
  | impersonate .. => .impersonate
  | narrate .. => .narrate
  | world .. => .world

/-- The name of the user for whom a conversation is opened when none is given. -/
def defaultUser : Text := "user"

/-- The whole number given under a name. -/
def integer? (given : Entries Text) (name : Text) : Option Int :=
  (given.get? name).bind fun t => (Numeral.integer t).toOption

/-- The item that is given: both its owner and its name are. -/
def item? (given : Entries Text) : Option ItemContext :=
  let text := fun name : Text => Text.orEmpty (given.get? name)
  let item : ItemContext := ⟨text "--item-owner", text "--item-name", text "--item-description"⟩
  if item.owner.isEmpty ∨ item.name.isEmpty then none else some item

/-- **The command of a verb** from what its arguments give. -/
def ofGiven? (given : Entries Text) : Verb → Option Command
  | .new => do
    return new (.ofText (← given.get? "card")) ((given.get? "--user").getD defaultUser)
      (given.get? "--scenario")
  | .chat => do return chat (← integer? given "conversation_id") (given.get? "message")
  | .impersonate => do
    return impersonate (← integer? given "conversation_id")
      ((given.get? "--style").getD Prompt.plainStyle)
  | .narrate => do
    return narrate (← integer? given "conversation_id") (← given.get? "type") (item? given)
      (integer? given "--character-id")
  | .world => do return world (← integer? given "conversation_id")

end Command

/-- **What the arguments of the program ask for**: a command, and whether all of the log is
shown. -/
structure Invocation where
  verbose : Bool
  command : Command
deriving DecidableEq, Repr

namespace Invocation

/-- The option to see all of the log. -/
def verboseOption : Text := "--verbose"

/-- The options in front of a verb. -/
def grammar : Grammar :=
  { options := [(verboseOption, .flag)] }

/-- **What arguments ask for.** -/
def ofArguments (arguments : List Text) : Except Advice Invocation := do
  let (front, word, arguments) ← grammar.lead arguments
  match Verb.ofWord? word with
  | none => throw .misuse
  | some verb =>
    let given ← verb.grammar.read arguments
    match Command.ofGiven? given verb with
    | none => throw .misuse
    | some command =>
      let options ← front.finish
      return ⟨(options.get? verboseOption).isSome, command⟩

end Invocation

/-- The line that tells how a verb is used. -/
def Verb.usage (v : Verb) : Text :=
  let values := v.grammar.values.map fun (name, _) => ' ' :: name
  let options := v.grammar.options.map fun (name, _) => " [".toList ++ name ++ " TEXT]".toList
  "  ".toList ++ v.word ++ (values ++ options).flatten

/-- **How the program is used.** -/
def usage : Text :=
  Text.join ['\n'] (("roleplay [--verbose] COMMAND".toList) :: Verb.all.map Verb.usage)

end Roleplay
