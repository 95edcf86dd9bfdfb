import VisualNovel.Stage.Basic

/-!
# Directions

Background, character and audio nodes change a `Performance`: the stage and the music that is
playing. They may give audio commands, and warn about references that the novel does not declare;
a node with such a reference changes nothing.
-/

namespace VisualNovel

/-! ## What directions produce -/

/-- A command to the audio. -/
inductive AudioCommand where
  | playBgm (audioId : String)
  | stopBgm
  | fadeOutBgm (audioId : String)
  | playSfx (audioId : String)
deriving DecidableEq, Repr

/-- What a node refers to. -/
inductive ReferenceKind where
  | character
  | background
  | audio
deriving DecidableEq, Repr

/-- The wording of a kind of reference. -/
def ReferenceKind.describe : ReferenceKind → String
  | .character => "角色"
  | .background => "背景"
  | .audio => "音频"

/-- A reference to something that the novel does not declare. -/
structure MissingReference where
  kind : ReferenceKind
  /-- What is referred to. -/
  id : String
  /-- The node that refers to it. -/
  nodeId : String
deriving DecidableEq, Repr

/-- The wording of a missing reference. -/
def MissingReference.message (missing : MissingReference) : String :=
  s!"节点 '{missing.nodeId}' 引用的{missing.kind.describe} '{missing.id}' 不存在"

/-- The audio commands and warnings that come with a change. -/
structure Cues where
  commands : List AudioCommand := []
  warnings : List MissingReference := []
deriving DecidableEq, Repr

namespace Cues

/-- Neither commands nor warnings. -/
def none : Cues := {}

/-- A single command. -/
def command (command : AudioCommand) : Cues := { commands := [command] }

/-- A single warning. -/
def missing (kind : ReferenceKind) (id nodeId : String) : Cues :=
  { warnings := [⟨kind, id, nodeId⟩] }

instance : Append Cues where
  append first second :=
    ⟨first.commands ++ second.commands, first.warnings ++ second.warnings⟩

end Cues

/-- What the player sees behind the text and hears. -/
structure Performance where
  stage : Stage := .empty
  /-- The music that is playing. -/
  bgm : Option String := none
deriving DecidableEq, Repr

/-! ## The nodes -/

/-- The effect of a character node on the stage. Who enters while on screen is changed in place,
and who is not on screen does not move. -/
def Stage.act (stage : Stage) (cue : CharacterCue) : Stage :=
  let position := cue.position.getD .center
  match cue.action with
  | .enter =>
    if stage.isOnScreen cue.characterId then
      stage.update cue.characterId fun entry =>
        { entry with position, emotion := cue.emotion }
    else stage.add ⟨cue.characterId, position, cue.emotion⟩
  | .exit => stage.remove cue.characterId
  | .move =>
    stage.update cue.characterId fun entry =>
      { entry with position, emotion := cue.emotion.or entry.emotion }

namespace Novel

/-- A speaker who is not on screen enters at a free position. -/
def enterSpeaker (novel : Novel) (stage : Stage) (line : Dialogue) : Stage × Cues :=
  if stage.isOnScreen line.characterId then (stage, .none)
  else if (novel.character? line.characterId).isNone then
    (stage, .missing .character line.characterId line.id)
  else (stage.add ⟨line.characterId, stage.freePosition, line.emotion⟩, .none)

/-- Applies a character node. -/
def directCharacter (novel : Novel) (stage : Stage) (cue : CharacterCue) : Stage × Cues :=
  match novel.character? cue.characterId with
  | none => (stage, .missing .character cue.characterId cue.id)
  | some _ => (stage.act cue, .none)

/-- Applies a background node. -/
def directBackground (novel : Novel) (stage : Stage) (cue : BackgroundCue) : Stage × Cues :=
  match novel.background? cue.backgroundId with
  | none => (stage, .missing .background cue.backgroundId cue.id)
  | some _ => ({ stage with backgroundId := some cue.backgroundId }, .none)

/-- Applies an audio node to the music. Music that is playing already goes on, and a sound effect
can only be played. -/
def directAudio (novel : Novel) (bgm : Option String) (cue : AudioCue) : Option String × Cues :=
  match novel.audioAsset? cue.audioId with
  | none => (bgm, .missing .audio cue.audioId cue.id)
  | some asset =>
    match asset.kind, cue.action with
    | .bgm, .play =>
      if bgm = some asset.id then (bgm, .none)
      else (some asset.id, .command (.playBgm asset.id))
    | .bgm, .stop =>
      match bgm with
      | some _ => (none, .command .stopBgm)
      | none => (none, .none)
    | .bgm, .fadeOut =>
      match bgm with
      | some playing => (none, .command (.fadeOutBgm playing))
      | none => (none, .none)
    | .sfx, .play => (bgm, .command (.playSfx asset.id))
    | .sfx, .stop => (bgm, .none)
    | .sfx, .fadeOut => (bgm, .none)

/-- Applies a background, character or audio node. Other nodes change nothing here. -/
def direct (novel : Novel) (shown : Performance) (node : Node) : Performance × Cues :=
  match node with
  | .character cue =>
    let (stage, cues) := novel.directCharacter shown.stage cue
    ({ shown with stage }, cues)
  | .background cue =>
    let (stage, cues) := novel.directBackground shown.stage cue
    ({ shown with stage }, cues)
  | .audio cue =>
    let (bgm, cues) := novel.directAudio shown.bgm cue
    ({ shown with bgm }, cues)
  | .dialogue _ | .narration _ | .choice _ | .jump _ => (shown, .none)

/-- Lets the speaker of a dialogue node enter. Other nodes change nothing here. -/
def speak (novel : Novel) (shown : Performance) (node : Node) : Performance × Cues :=
  match node with
  | .dialogue line =>
    let (stage, cues) := novel.enterSpeaker shown.stage line
    ({ shown with stage }, cues)
  | _ => (shown, .none)

end Novel
end VisualNovel
