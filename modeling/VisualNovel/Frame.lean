import VisualNovel.Player

/-!
# What the player sees

A frame is the picture of a session as lines of text: the scene, the background, the characters on
screen, the music, the text as far as it is shown, the branches, and what can be done.
-/

namespace VisualNovel

/-- The name of a position on the screen. -/
def Position.label : Position → String
  | .left => "左"
  | .center => "中"
  | .right => "右"

/-- The name that the player sees for a character; the id when the novel has no such character. -/
def Novel.speakerName (novel : Novel) (characterId : String) : String :=
  ((novel.character? characterId).map (·.displayName)).getD characterId

/-- The name of a scene; the id when the novel has no such scene. -/
def Novel.sceneName (novel : Novel) (sceneId : String) : String :=
  ((novel.scene? sceneId).map (·.name)).getD sceneId

/-- The name of an audio asset; the id when the novel has no such asset. -/
def Novel.audioName (novel : Novel) (audioId : String) : String :=
  ((novel.audioAsset? audioId).map (·.name)).getD audioId

namespace Frame

/-- What stands for a background without a picture. -/
def defaultBackground : String := "默认画面"

/-- The name of the background. -/
def background (novel : Novel) : Option String → String
  | none => "（无）"
  | some id =>
    match novel.background? id, novel.backgroundUrl? id with
    | some background, some _ => background.name
    | some background, none => s!"{background.name}（{defaultBackground}）"
    | none, _ => defaultBackground

/-- A character on screen. -/
def placement (novel : Novel) (entry : Placement) : String :=
  let name := novel.speakerName entry.characterId
  match entry.emotion with
  | some emotion => s!"{name}[{entry.position.label} {emotion}]"
  | none => s!"{name}[{entry.position.label}]"

/-- The branches of a choice, numbered from one. -/
def branches (choice : Choice) : List String :=
  choice.branches.mapIdx fun index branch => s!"  {index + 1}. {branch.text}"

variable {σ : Type}

/-- The lines of the current node. -/
def node (player : Player σ) : List String :=
  let novel := player.playback.novel
  let text := player.reveal.visibleText
  match player.playback.shownNode? with
  | some (.dialogue line) => [s!"{novel.speakerName line.characterId}：{text}"]
  | some (.narration _) => [text]
  | some (.choice choice) =>
    (if text.isEmpty then [] else [text])
      ++ if player.choicesVisible then branches choice else []
  | _ => []

/-- The line that tells what can be done. -/
def affordance (player : Player σ) : List String :=
  if player.isRevealing then ["……"]
  else if player.canAdvance then ["▼"]
  else if player.playback.isFinished then ["【完】"]
  else []

/-- The lines of a frame. -/
def lines (player : Player σ) : List String :=
  let playback := player.playback
  let novel := playback.novel
  let stage := playback.shown.stage
  [s!"── {novel.sceneName playback.cursor.sceneId} ──",
    s!"背景: {background novel stage.backgroundId}"]
    ++ (if stage.cast.isEmpty then []
      else ["角色: " ++ "  ".intercalate (stage.cast.map (placement novel))])
    ++ (match playback.shown.bgm with
      | some bgm => [s!"BGM: {novel.audioName bgm}"]
      | none => [])
    ++ [""] ++ node player ++ affordance player

/-- The frame of a session. -/
def render (player : Player σ) : String :=
  "\n".intercalate (lines player)

end Frame

/-- An event of the history as the player sees it. -/
def HistoryEvent.render (novel : Novel) : HistoryEvent → String
  | .line (some speaker) text _ => s!"{novel.speakerName speaker}：{text}"
  | .line none text _ => text
  | .choiceMade _ option _ => s!"> {option}"
  | .sceneEntered sceneId _ => s!"== {novel.sceneName sceneId} =="

/-- The last events of the history, a line each. -/
def History.render (novel : Novel) (history : History) (count : Nat) : String :=
  "\n".intercalate ((history.latest count).map (·.render novel))

end VisualNovel
