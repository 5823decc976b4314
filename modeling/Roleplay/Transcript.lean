import Roleplay.Message
import Roleplay.Text.Blank
import Roleplay.Text.Fold

/-!
# Transcripts

A conversation as text: each message after the name of its speaker, a blank line between each two.
A model that continues a transcript tends to begin its answer with the name of the speaker again;
that echo is taken off.

## Main definitions

* `Message.speaker`: the name a message stands under
* `transcript`: messages as text
* `withoutSpeaker`: an answer without the name it begins with
-/

namespace Roleplay

/-- The name of the narrator. -/
def narratorName : Text := "Narrator"

/-- **The name a message stands under.** -/
def Message.speaker (m : Message) (user character : Text) : Text :=
  match m.role with
  | .user => user
  | .system => "System"
  | .narrator => narratorName
  | .assistant => Text.given m.sender character

/-- **The transcript** of messages; a character without a name is `Character`. -/
def transcript (ms : List Message) (user : Text) (character : Option Text) : Text :=
  let character := Text.given character "Character"
  Text.join ['\n', '\n'] (ms.map fun m => m.speaker user character ++ [':', ' '] ++ m.content)

/-- What follows the name of a speaker in any case, blanks, a colon and blanks. -/
def afterSpeaker? (t speaker : Text) : Option Text :=
  match t.dropFolded? speaker with
  | none => none
  | some rest =>
    match rest.dropWhile Text.isBlank with
    | ':' :: rest => some (rest.dropWhile Text.isBlank)
    | _ => none

/-- **An answer without its speaker**: blanks at either end are dropped, and the speaker's name
with its colon where the answer begins with it. -/
def withoutSpeaker (t speaker : Text) : Text :=
  if speaker.isEmpty then t.strip else (afterSpeaker? t.strip speaker).getD t.strip

end Roleplay
