import VisualNovel.Music
import VisualNovel.Playback.Basic
import VisualNovel.Reveal
import VisualNovel.Save.Slots

/-!
# A session with a player

A `Player` puts together what a session needs: the story being played, the text that is being
shown, the music, and the store with the novel's save. A click first shows the rest of the text
and only then goes on, and branches can only be taken once the question is shown.

Each operation gives its result and the session afterwards, also when it fails. What a failing
movement of the story or a failing store has changed by then is kept.
-/

namespace VisualNovel

/-- How a session is shown. -/
structure PlayerOptions where
  /-- Characters per second. -/
  speed : Float32 := Reveal.defaultSpeed
  /-- Whether text is shown bit by bit. -/
  animate : Bool := true
  /-- How long music takes to fade out. -/
  fadeMilliseconds : Nat := 1500
deriving DecidableEq

/-- What came of a click. -/
inductive ClickOutcome where
  /-- The rest of the text is shown. -/
  | revealedAll
  /-- The story went on. -/
  | advanced
  /-- There was nothing to do. -/
  | stayed
deriving DecidableEq, Repr

/-- What came of loading. -/
inductive LoadOutcome where
  | loaded
  /-- There is no save that can be read. -/
  | noSave
deriving DecidableEq, Repr

/-- Why an operation fails. -/
inductive PlayerError where
  | playback (error : PlaybackError)
  | save (error : SaveError)
  /-- The branches are not shown yet. -/
  | choicesHidden
  /-- The current node is no choice. -/
  | notChoosing
  | invalidChoice (index count : Nat)
deriving DecidableEq, Repr

/-- The wording of a player error. -/
def PlayerError.message : PlayerError → String
  | .playback error => error.message
  | .save error => error.message
  | .choicesHidden => "文本尚未显示完，选项不可用"
  | .notChoosing => "当前没有可选择的选项"
  | .invalidChoice index count => s!"选项序号 {index} 超出范围（共 {count} 项）"

/-- A session. -/
structure Player (σ : Type) where
  playback : Playback
  reveal : Reveal
  /-- Whether text is shown bit by bit. -/
  animate : Bool
  music : Music
  /-- Where saves are kept. -/
  store : σ

namespace Player

variable {σ : Type}

/-! ## What can be done -/

/-- Whether text is still being shown. -/
def isRevealing (player : Player σ) : Bool :=
  !player.reveal.isComplete

/-- Whether a click goes on. -/
def canAdvance (player : Player σ) : Bool :=
  !player.isRevealing && player.playback.waiting = .click && !player.playback.isFinished

/-- Whether branches are shown. -/
def choicesVisible (player : Player σ) : Bool :=
  !player.isRevealing && player.playback.waiting.isChoice

/-- Whether there is something in the novel's save slot. -/
def hasSave [SaveStore σ] (player : Player σ) : Bool :=
  Slots.has player.store player.playback.novel.id

/-- When the save in the novel's slot was made. -/
def savedAt? [SaveStore σ] (player : Player σ) : Option Instant :=
  Slots.savedAt? player.store player.playback.novel.id

/-! ## Steps of the story -/

/-- The text to show at the current node. -/
def nodeText (playback : Playback) : String :=
  (playback.shownNode?.bind (·.text?)).getD ""

/-- Shows a new text, all of it at once unless it is animated. -/
def showText (player : Player σ) (text : String) : Player σ :=
  let reveal := player.reveal.restart text
  { player with reveal := if player.animate then reveal else reveal.skipToEnd }

/-- Takes a step of the story: the music follows, and a node that was reached has its text
shown. -/
def take (player : Player σ) (moved : Playback × Step) : Player σ :=
  let (playback, step) := moved
  let player :=
    { player with playback, music := player.music.executeAll step.cues.commands }
  if step.nodeChanged then player.showText (nodeText playback) else player

/-- Starts a session. -/
def start (novel : Novel) (options : PlayerOptions) (store : σ) (clock : Instant) :
    Except PlayerError (Player σ) :=
  match Playback.start novel clock with
  | .error e => .error (.playback e)
  | .ok (playback, step) =>
    let player : Player σ :=
      { playback, reveal := { speed := options.speed }, animate := options.animate
        music := { fadeMilliseconds := options.fadeMilliseconds }, store }
    .ok (player.take (playback, step))

/-- Moves the story and takes the step that comes of it, or fails with the story as the movement
has left it. -/
def follow {α : Type} (player : Player σ) (action : Playback.Action Step) (outcome : Step → α) :
    Except PlayerError α × Player σ :=
  match action.run player.playback with
  | (.error e, playback) => (.error (.playback e), { player with playback })
  | (.ok step, playback) => (.ok (outcome step), player.take (playback, step))

/-- A click. -/
def click (player : Player σ) : Except PlayerError ClickOutcome × Player σ :=
  if player.isRevealing then
    (.ok .revealedAll, { player with reveal := player.reveal.skipToEnd })
  else
    player.follow Playback.Action.advance fun step =>
      if step.nodeChanged then .advanced else .stayed

/-- Takes the branch with the index. -/
def choose (player : Player σ) (index : Nat) : Except PlayerError Unit × Player σ :=
  match player.playback.currentNode? with
  | some (.choice choice) =>
    if !player.choicesVisible then (.error .choicesHidden, player)
    else
      match choice.branches[index]? with
      | none => (.error (.invalidChoice index choice.branches.length), player)
      | some branch => player.follow (Playback.Action.choose branch.id) fun _ => ()
  | _ => (.error .notChoosing, player)

/-- Goes to a scene. -/
def jump (player : Player σ) (sceneId : String) : Except PlayerError Unit × Player σ :=
  player.follow (Playback.Action.jump sceneId) fun _ => ()

/-- Starts the story again. -/
def restart (player : Player σ) : Except PlayerError Unit × Player σ :=
  player.follow Playback.Action.restart fun _ => ()

/-! ## Saves -/

/-- Takes over what a change of the store gives. -/
def withStore (player : Player σ) (changed : Except SaveError Unit × σ) :
    Except PlayerError Unit × Player σ :=
  (changed.1.mapError .save, { player with store := changed.2 })

/-- Saves the place in the story. -/
def save [SaveStore σ] (player : Player σ) : Except PlayerError Unit × Player σ :=
  player.withStore (Slots.write player.store player.playback.novel.id player.playback.save)

/-- Goes back to the saved place. A save that cannot be read counts as none. -/
def load [SaveStore σ] (player : Player σ) : Except PlayerError LoadOutcome × Player σ :=
  match Slots.read player.store player.playback.novel.id with
  | .ok none => (.ok .noSave, player)
  | .error (.malformed _) => (.ok .noSave, player)
  | .error e => (.error (.save e), player)
  | .ok (some save) => player.follow (Playback.Action.load save) fun _ => .loaded

/-- Deletes the save. -/
def deleteSave [SaveStore σ] (player : Player σ) : Except PlayerError Unit × Player σ :=
  player.withStore (Slots.delete player.store player.playback.novel.id)

/-! ## Time -/

/-- Lets time pass, in seconds. -/
def tick (player : Player σ) (seconds : Float32) : Player σ :=
  { player with reveal := player.reveal.advance seconds, music := player.music.tick seconds }

/-- Tells the session the time of day. -/
def setClock (player : Player σ) (clock : Instant) : Player σ :=
  { player with playback := { player.playback with clock } }

end Player
end VisualNovel
