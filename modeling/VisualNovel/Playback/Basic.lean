import VisualNovel.History.Basic
import VisualNovel.Playback.Entry

/-!
# Playing a novel

A `Playback` is a novel being played: the place in the story, what is seen and heard, and what
has happened. It is moved in place by an `Action`, which gives what comes with the move (`Step`) or
fails, and nothing takes back what an action has changed before it fails. So each movement first
looks where it would end, and changes the playback only then. `Playback.advance` and the other
functions give what the movements lead to when they succeed.
-/

namespace VisualNovel

/-- What play waits for. -/
inductive Waiting where
  | click
  /-- A choice among so many branches. -/
  | choice (count : Nat)
  /-- Nothing: the story has ended here. -/
  | ended
deriving DecidableEq, Repr

/-- Whether a choice is waited for. -/
def Waiting.isChoice : Waiting → Bool
  | .choice _ => true
  | _ => false

/-- What comes with an operation. -/
structure Step where
  cues : Cues
  /-- What is waited for afterwards. -/
  waiting : Waiting
  /-- Whether a node was reached, be it the same as before. -/
  nodeChanged : Bool
deriving DecidableEq, Repr

/-- A novel being played. -/
structure Playback where
  novel : Novel
  cursor : Cursor
  shown : Performance
  history : History
  /-- The time that is given to events and saves. -/
  clock : Instant
deriving DecidableEq

namespace Playback

/-! ## Actions -/

/-- What can be done to a playback in place. What an action has changed before it fails stays
changed. -/
abbrev Action (α : Type) := ExceptT PlaybackError (StateM Playback) α

namespace Action

variable {α : Type}

/-- What an action gives, and the playback afterwards. -/
def run (action : Action α) (playback : Playback) : Except PlaybackError α × Playback :=
  StateT.run (ExceptT.run action) playback

/-- What an action leads to, of which nothing is left when it fails. -/
def on (action : Action α) (playback : Playback) : Except PlaybackError (Playback × α) :=
  match action.run playback with
  | (.ok result, playback) => .ok (playback, result)
  | (.error e, _) => .error e

end Action

/-! ## The current node -/

/-- The node under the cursor. -/
def currentNode? (playback : Playback) : Option Node :=
  (playback.novel.scene? playback.cursor.sceneId).bind (·.nodes[playback.cursor.nodeIndex]?)

/-- The node under the cursor, if it waits for the player. -/
def shownNode? (playback : Playback) : Option Node :=
  playback.currentNode?.filter (·.isInteractive)

/-- Whether the node under the cursor is a choice. -/
def atChoice (playback : Playback) : Bool :=
  playback.currentNode?.any (·.isChoice)

/-- What play waits for. -/
def waiting (playback : Playback) : Waiting :=
  match playback.currentNode? with
  | some (.choice choice) => .choice choice.branches.length
  | some (.dialogue _) | some (.narration _) => .click
  | _ => .ended

/-- Whether nothing follows in the scene. A choice is never the end. -/
def isFinished (playback : Playback) : Bool :=
  match playback.novel.scene? playback.cursor.sceneId with
  | none => true
  | some scene => scene.lastIndex ≤ playback.cursor.nodeIndex && !playback.atChoice

/-! ## Where movements end -/

/-- The line that a node puts into the history. -/
def lineOf (timestamp : Int) : Node → Option HistoryEvent
  | .dialogue node => some (.line (some node.characterId) node.text timestamp)
  | .narration node => some (.line none node.text timestamp)
  | _ => none

/-- The step that stays where it is. -/
def idle (playback : Playback) : Step :=
  ⟨.none, playback.waiting, false⟩

/-- Goes where a movement ends and records it: the scene if one was entered, and the line that is
shown there. -/
def land (playback : Playback) (landing : Landing) (sceneEntered : Bool) : Playback × Step :=
  let moved := { playback with cursor := landing.cursor, shown := landing.shown }
  let timestamp := playback.clock.unix
  let scene := if sceneEntered then [.sceneEntered landing.cursor.sceneId timestamp] else []
  let line := (moved.currentNode?.bind (lineOf timestamp)).toList
  let moved := { moved with history := playback.history.pushAll (scene ++ line) }
  (moved, ⟨landing.cues, moved.waiting, true⟩)

/-! ## Saves -/

/-- The save of the current place. -/
def save (playback : Playback) : Save :=
  .make playback.cursor playback.shown.stage playback.shown.bgm playback.clock

/-- The command that brings back the music of a save. -/
def musicCommand : Option String → AudioCommand
  | some audioId => .playBgm audioId
  | none => .stopBgm

/-! ## Movements -/

namespace Action

/-- Goes where a movement ends. -/
def commit (landing : Landing) (sceneEntered : Bool) : Action Step :=
  modifyGet fun playback => (playback.land landing sceneEntered).swap

/-- Goes on to the next node that waits for the player. At the last node and at a choice nothing
happens. -/
def advance : Action Step := do
  let playback ← get
  match playback.novel.scene? playback.cursor.sceneId with
  | none => throw (.sceneNotFound playback.cursor.sceneId)
  | some scene =>
    if scene.lastIndex ≤ playback.cursor.nodeIndex || playback.atChoice then
      pure playback.idle
    else
      let next := playback.cursor.nodeIndex + 1
      let walk := playback.novel.walk next playback.shown .none (scene.nodes.drop next)
      match walk.ending with
      | .halted nodeIndex => commit ⟨⟨scene.id, nodeIndex⟩, walk.shown, walk.cues⟩ false
      | .ranOut => commit ⟨⟨scene.id, scene.lastIndex⟩, walk.shown, walk.cues⟩ false
      | .left target =>
        let landing ← playback.novel.enter target walk.shown.bgm walk.cues
        commit landing true

/-- Takes a branch of the current choice. -/
def choose (branchId : String) : Action Step := do
  let playback ← get
  match playback.currentNode? with
  | some (.choice choice) =>
    match choice.branch? branchId with
    | none => throw (.branchNotFound branchId)
    | some branch =>
      let event := .choiceMade choice.prompt branch.text playback.clock.unix
      let landing ← playback.novel.enter branch.targetSceneId playback.shown.bgm .none
      modify fun playback => { playback with history := playback.history.push event }
      commit landing true
  | other =>
    throw (.stateMismatch "choice" ((other.map fun node => Worded.word node.kind).getD "end"))

/-- Goes to a scene. -/
def jump (sceneId : String) : Action Step := do
  let playback ← get
  let landing ← playback.novel.enter sceneId playback.shown.bgm .none
  commit landing true

/-- Starts again: the music stops and the history is forgotten. -/
def restart : Action Step := do
  let playback ← get
  let cues := if playback.shown.bgm.isSome then .command .stopBgm else .none
  let landing ← playback.novel.enter playback.novel.startSceneId none cues
  modify fun playback => { playback with history := playback.history.clear }
  commit landing true

/-- Goes back to a saved place, with the stage and the music as they were. -/
def load (save : Save) : Action Step := do
  let playback ← get
  match playback.novel.scene? save.sceneId with
  | none => throw (.sceneNotFound save.sceneId)
  | some scene =>
    if scene.nodes.length ≤ save.nodeIndex then
      throw (.invalidSavePosition save.sceneId save.nodeIndex)
    else
      modify fun playback => { playback with cursor := save.cursor }
      modify fun playback => { playback with shown := { playback.shown with stage := save.stage } }
      modify fun playback => { playback with shown := { playback.shown with bgm := save.bgm } }
      let moved ← get
      pure ⟨.command (musicCommand moved.shown.bgm), moved.waiting, true⟩

end Action

/-! ## What movements lead to -/

/-- What going on leads to. -/
def advance (playback : Playback) : Except PlaybackError (Playback × Step) :=
  Action.advance.on playback

/-- What taking a branch leads to. -/
def choose (playback : Playback) (branchId : String) : Except PlaybackError (Playback × Step) :=
  (Action.choose branchId).on playback

/-- What going to a scene leads to. -/
def jump (playback : Playback) (sceneId : String) : Except PlaybackError (Playback × Step) :=
  (Action.jump sceneId).on playback

/-- What starting again leads to. -/
def restart (playback : Playback) : Except PlaybackError (Playback × Step) :=
  Action.restart.on playback

/-- What going back to a save leads to. -/
def load (playback : Playback) (save : Save) : Except PlaybackError (Playback × Step) :=
  (Action.load save).on playback

/-! ## Starts -/

/-- Playback of a novel at its start, before anything is entered. -/
def blank (novel : Novel) (clock : Instant) : Playback :=
  { novel, cursor := ⟨novel.startSceneId, 0⟩, shown := {}, history := .new, clock }

/-- Starts a novel at its first scene. -/
def start (novel : Novel) (clock : Instant) : Except PlaybackError (Playback × Step) :=
  if novel.scenes.isEmpty then .error .emptyNovel
  else do
    let landing ← novel.enter novel.startSceneId none .none
    .ok ((blank novel clock).land landing true)

/-- Plays a novel from a saved place. -/
def resume (novel : Novel) (clock : Instant) (save : Save) :
    Except PlaybackError (Playback × Step) :=
  if novel.scenes.isEmpty then .error .emptyNovel
  else (blank novel clock).load save

end Playback
end VisualNovel
