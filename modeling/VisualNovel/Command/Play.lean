import VisualNovel.Command.Arguments
import VisualNovel.Command.Basic
import VisualNovel.Command.Input
import VisualNovel.Save.Folder
import VisualNovel.Session
import VisualNovel.Settings

/-!
# The command that plays a novel

Play reads a novel and the settings, keeps saves in a folder, and takes its input from a file or
from the standard input.
-/

namespace VisualNovel.Command

/-- Starts the session of a novel in a file. A folder for saves that is named takes the place of
the one in the settings. -/
def startPlay (disk : Disk) (settings : Settings) (novelPath : String)
    (savesFolder : Option String) (clock : Instant) : Except CommandError (Player Folder) := do
  let novel ← Novel.ofFile disk novelPath
  let folder : Folder := { disk, path := savesFolder.getD settings.savesFolder }
  (Player.start novel settings.options folder clock).mapError .start

/-- The input of a session, from a file if one is named. A directory opens like a file. -/
def openInput (disk : Disk) (inputs : Option String) (standardInput : ByteArray) :
    Except CommandError Input :=
  (Input.ofPath disk inputs standardInput).mapError (.inputsFile (inputs.getD ""))

/-- What is told about a novel before play: its errors and warnings, if the settings ask for
them. -/
def notices (settings : Settings) (novel : Novel) : List String :=
  if settings.debug.checksNovel then (novel.analyze.atLeast .warn).map (·.toText) else []

/-- The time that a line takes to come, in seconds. It is too short for a character to appear at a
usual speed, and at an infinite speed the whole text appears. -/
def lineSeconds : Float32 := 0.00001

/-- Answers the lines of the input, at most as many as the given number. Gives all that is written,
after what was written before. -/
def answerInput (written : String) (player : Player Folder) (input : Input) :
    Nat → String × Session.Ending × Player Folder
  | 0 => (written, .done, player)
  | limit + 1 =>
    match input.next? player.store.disk with
    | none => (written, .done, player)
    | some (none, _) => (written, .unreadable, player)
    | some (some line, input) =>
      let (response, player) := Session.answer (player.tick lineSeconds) line
      let written := written ++ response.text
      if response.quits then (written, .done, player)
      else answerInput written player input limit

/-- Plays a novel to the end of the input, whose lines come as fast as they are read. Gives the disk
as it is afterwards. -/
def runPlay (disk : Disk) (settings : Settings) (novelPath : String)
    (savesFolder inputs : Option String) (standardInput : ByteArray) (clock : Instant) :
    Outcome × Disk :=
  let prepared := do
    let player ← startPlay disk settings novelPath savesFolder clock
    .ok (player, ← openInput disk inputs standardInput)
  match prepared with
  | .error e => (e.outcome "", disk)
  | .ok (player, input) =>
    let complaints := Text.lines (notices settings player.playback.novel)
    let (output, ending, after) :=
      answerInput (Session.opening player) player input (input.lineLimit disk)
    match ending with
    | .done => ({ output, complaints }, after.store.disk)
    | .unreadable =>
      let stopped := (CommandError.input .notText).outcome output
      ({ stopped with complaints := complaints ++ stopped.complaints }, after.store.disk)

/-- How the program is called. -/
def usage : String := "novel-cli [--config PATH] play NOVEL [--saves-dir PATH] [--inputs PATH]
novel-cli [--config PATH] check NOVEL
novel-cli novel-check [PATH]
"

/-- The outcome of a command line without a command. -/
def stopped : ArgumentStop → Outcome
  | .version => { output := Text.line "novel-cli 0.1.0" }
  | .help => { complaints := usage }
  | .misuse => { code := 2, complaints := usage }

/-- Carries out a command line. -/
def run (disk : Disk) (arguments : List String) (standardInput : ByteArray) (clock : Instant) :
    Outcome × Disk :=
  match Invocation.ofArguments arguments with
  | .error reason => (stopped reason, disk)
  | .ok { config, command } =>
    match command with
    | .check novelPath => (runCheck disk novelPath, disk)
    | .play novelPath savesFolder inputs =>
      runPlay disk (Settings.load disk config) novelPath savesFolder inputs standardInput clock

end VisualNovel.Command
