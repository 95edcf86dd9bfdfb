import VisualNovel.Schema.Record
import VisualNovel.Schema.Variant
import VisualNovel.Stage.Direction

/-!
# Audio commands as documents

A command that names an asset is an object whose only member is named for the kind of command and
holds the id. The command to stop the music is its bare name.
-/

namespace VisualNovel.AudioCommand

/-- The kinds of commands. -/
inductive Kind where
  | playBgm
  | stopBgm
  | fadeOutBgm
  | playSfx
deriving DecidableEq, Repr

instance : Worded Kind where
  all := [.playBgm, .stopBgm, .fadeOutBgm, .playSfx]
  word
    | .playBgm => "PlayBgm"
    | .stopBgm => "StopBgm"
    | .fadeOutBgm => "FadeOutBgm"
    | .playSfx => "PlaySfx"

/-- The id that a command of the given kind names. -/
def idRecord (kind : Kind) : Record String where
  title := "struct variant Command::" ++ Worded.word kind
  Parts := _
  fields := .cons (.required "audio_id" .text) .nil
  build := fun (audioId, ()) => audioId
  parts audioId := (audioId, ())

/-- A kind of commands that name an asset. -/
def naming (kind : Kind) (command : String → AudioCommand) : Variant AudioCommand :=
  .fields fun source json => ((idRecord kind).read source json).map command

/-- How commands of each kind are read. -/
def variant : Kind → Variant AudioCommand
  | .playBgm => naming .playBgm playBgm
  | .stopBgm => .bare stopBgm
  | .fadeOutBgm => naming .fadeOutBgm fadeOutBgm
  | .playSfx => naming .playSfx playSfx

/-- A command that names an asset, as a document. -/
def namingJson (kind : Kind) (audioId : String) : Json :=
  .ofMembers [(Worded.word kind, (idRecord kind).codec.write audioId)]

/-- A command as a document. -/
def toJson : AudioCommand → Json
  | playBgm audioId => namingJson .playBgm audioId
  | stopBgm => .ofString (Worded.word Kind.stopBgm)
  | fadeOutBgm audioId => namingJson .fadeOutBgm audioId
  | playSfx audioId => namingJson .playSfx audioId

/-- The codec of commands. -/
def codec : Codec AudioCommand where
  read := Variant.readUnion variant
  write := toJson

end VisualNovel.AudioCommand
