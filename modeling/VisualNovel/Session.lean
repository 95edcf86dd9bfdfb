import VisualNovel.Frame
import VisualNovel.Prompt
import VisualNovel.Text.Lines

/-!
# Playing line by line

A session is played by lines of input. Each line is answered by text: a message or an error, and
the new frame. No error ends the session; only the command to quit, the end of the input, or a
line that is no text does.
-/

namespace VisualNovel

/-- The answer to a line of input. -/
structure Response where
  /-- What is written. -/
  text : String
  /-- Whether the session ends. -/
  quits : Bool
deriving DecidableEq, Repr

namespace Session

open Text (line)

variable {σ : Type} [SaveStore σ]

/-- How many events the command `log` shows. -/
def logLength : Nat := 20

/-- The message that an operation was done, with the time of the save if there is one. -/
def notice (player : Player σ) (message : String) : String :=
  match player.savedAt? with
  | some time => line s!"* {message} ({time.toMinute})"
  | none => line s!"* {message}"

/-- The message of an operation that may fail, and the frame after it. -/
def report (result : Except PlayerError (Option String)) (player : Player σ) :
    Response × Player σ :=
  let message := match result with
    | .ok (some message) => notice player message
    | .ok none => ""
    | .error e => line s!"! {e.message}"
  (⟨message ++ line (Frame.render player), false⟩, player)

/-- The message that a load was done. -/
def loadMessage : LoadOutcome → String
  | .loaded => "已读档"
  | .noSave => "没有存档"

/-- Does what a line asks for. -/
def handle (player : Player σ) (prompt : Prompt) : Response × Player σ :=
  match prompt with
  | .quit => (⟨"", true⟩, player)
  | .log =>
    let playback := player.playback
    (⟨line (playback.history.render playback.novel logLength), false⟩, player)
  | .click =>
    let (result, player) := player.click
    report (result.map fun _ => none) player
  | .choose index =>
    let (result, player) := player.choose index
    report (result.map fun _ => none) player
  | .jump sceneId =>
    let (result, player) := player.jump sceneId
    report (result.map fun _ => none) player
  | .restart =>
    let (result, player) := player.restart
    report (result.map fun _ => none) player
  | .save =>
    let (result, player) := player.save
    report (result.map fun _ => some "已存档") player
  | .load =>
    let (result, player) := player.load
    report (result.map fun outcome => some (loadMessage outcome)) player

/-- Answers a line of input. -/
def answer (player : Player σ) (input : String) : Response × Player σ :=
  match Prompt.parse input with
  | .error e => (⟨line s!"! {e.message}", false⟩, player)
  | .ok prompt => handle player prompt

/-! ## Whole sessions -/

/-- What is written before the first line of input. -/
def opening (player : Player σ) : String :=
  line (Frame.render player)

/-- How a session ends. -/
inductive Ending where
  /-- By the command to quit, or with the input. -/
  | done
  /-- At a line of input that is no text. -/
  | unreadable
deriving DecidableEq, Repr

/-- Answers lines of input, each of which comes after some seconds; a line that is no text is
none. Gives all that is written, after what was written before. -/
def answerAll (written : String) (player : Player σ) :
    List (Float32 × Option String) → String × Ending × Player σ
  | [] => (written, .done, player)
  | (_, none) :: _ => (written, .unreadable, player)
  | (seconds, some input) :: inputs =>
    let (response, player) := answer (player.tick seconds) input
    let written := written ++ response.text
    if response.quits then (written, .done, player) else answerAll written player inputs

/-- Plays a whole session. -/
def run (player : Player σ) (inputs : List (Float32 × Option String)) :
    String × Ending × Player σ :=
  answerAll (opening player) player inputs

end Session
end VisualNovel
