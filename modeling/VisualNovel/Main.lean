import Std.Time.DateTime.Timestamp
import VisualNovel.Command.Play
import VisualNovel.Command.Review

/-!
# The program

The program copies what a command looks at from the real disk to a `Disk`, carries the command out
on that, and copies a save that changed back. Play goes line by line, so that each answer is seen
before the next line is read.
-/

namespace VisualNovel.Program

/-! ## The real disk and the time -/

/-- The time of day. -/
def now : IO Instant := do
  let nanoseconds := (← Std.Time.Timestamp.now).toNanosecondsSinceUnixEpoch.val
  let unix := nanoseconds / nanosPerSecond
  let nanos := (nanoseconds % nanosPerSecond).toNat
  return (Instant.ofParts? unix nanos).getD (Instant.ofUnix unix)

/-- A disk with the directory in which the program runs. -/
def diskHere : IO Disk := do
  return .blank ((← IO.currentDir).components.filter (!·.isEmpty))

/-- The places that names lead through from a place. -/
def placesThrough (place : Place) : List String → List Place
  | [] => []
  | name :: names =>
    let next :=
      if name == ".." then place.dropLast else if Path.isIdle name then place else place ++ [name]
    next :: placesThrough next names

/-- Copies what is at a path, if there is anything. -/
def copy (disk : Disk) (path : String) : IO Disk := do
  let real := (← IO.currentDir) / path
  if path.isEmpty || !(← real.pathExists) then return disk
  let entry ← if ← real.isDir then pure .directory else .file <$> IO.FS.readBinFile real
  match (placesThrough (disk.startOf path) (Path.steps path)).reverse with
  | [] => return disk
  | place :: around =>
    return (around.reverse.foldl (fun disk outer => disk.plant outer .directory) disk).plant
      place entry

/-- Copies the files in a directory and in those inside it. -/
partial def copyAll (disk : Disk) (path : String) : IO Disk := do
  let mut disk ← copy disk path
  let real := (← IO.currentDir) / path
  if ← real.isDir then
    for entry in ← real.readDir do
      let inner := Path.join path entry.fileName
      if (← entry.path.isDir) || Path.extension? entry.fileName == some "json" then
        disk ← copyAll disk inner
  return disk

/-- Writes what is said, and ends with the code. -/
def finish (outcome : Outcome) : IO UInt32 := do
  IO.print outcome.output
  IO.eprint outcome.complaints
  return outcome.code

/-! ## Reviews -/

/-- Copies the files that the novel in a file declares. -/
def copyResources (disk : Disk) (path : String) : IO Disk := do
  match disk.readText path with
  | .error _ => return disk
  | .ok text =>
    match Novel.ofText text with
    | .error _ => return disk
    | .ok novel =>
      let directory := (Path.parent? path).getD "."
      (novel.resources.filter (·.isLocal)).foldlM
        (fun disk resource => copy disk (Path.join directory resource.address)) disk

/-- Reviews the files at a path. -/
def review (arguments : List String) : IO UInt32 := do
  let path := arguments.head?.getD Review.defaultPath
  let disk ← copyAll (← diskHere) path
  let files := match disk.find path with
    | .ok (directory, .directory) => Review.novelFiles disk path directory
    | _ => [path]
  let disk ← files.foldlM copyResources disk
  finish (Review.ofPath disk arguments.head?)

/-! ## Play -/

/-- Where lines of input come from. -/
inductive Source where
  /-- A file of the disk. -/
  | file (input : Input)
  | stream (stream : IO.FS.Stream)

/-- The next line, none at the end, and where the others come from. -/
def Source.next (disk : Disk) : Source → IO (Option (Option String) × Source)
  | .file input =>
    match input.next? disk with
    | none => return (none, .file input)
    | some (line, input) => return (some line, .file input)
  | .stream input => do
    let line ← input.getLine
    return ((Text.linesOf line.toUTF8).head?, .stream input)

/-- The path of the file with the save of a session. -/
def savePath? (player : Player Folder) : Option String :=
  (player.store.pathFor (Slots.key player.playback.novel.id)).toOption

/-- Copies the save of a session back to the real disk if it changed, and directories around it that
were made. -/
def keepSave (before after : Player Folder) : IO Unit := do
  for path in (Disk.pathsAround after.store.path).reverse do
    let real := (← IO.currentDir) / path
    if after.store.disk.isDirectory path && !(← real.pathExists) then IO.FS.createDir real
  let some path := savePath? after | return
  let bytes (player : Player Folder) := (player.store.disk.read path).toOption
  if bytes before != bytes after then
    match bytes after with
    | some bytes => IO.FS.writeBinFile path bytes
    | none => IO.FS.removeFile path

/-- Answers lines until the session ends. -/
partial def playFrom (player : Player Folder) (source : Source) (last : Nat) : IO UInt32 := do
  (← IO.getStdout).flush
  let (line, source) ← source.next player.store.disk
  match line with
  | none => return 0
  | some none => finish ((CommandError.input .notText).outcome "")
  | some (some input) =>
    let time ← IO.monoNanosNow
    let seconds := (Float.ofNat (time - last) / 1e9).toFloat32
    let (response, after) := Session.answer ((player.setClock (← now)).tick seconds) input
    IO.print response.text
    keepSave player after
    if response.quits then return 0 else playFrom after source time

/-- Plays a novel. -/
def play (disk : Disk) (settings : Settings) (novelPath : String)
    (savesFolder inputs : Option String) : IO UInt32 := do
  match Command.startPlay disk settings novelPath savesFolder (← now) with
  | .error e => finish (e.outcome "")
  | .ok player =>
    let folders := Disk.pathsAround player.store.path
    let disk ← (folders.reverse ++ (savePath? player).toList).foldlM copy disk
    let player := { player with store := { player.store with disk } }
    let source ← match inputs with
      | none => pure (.ok (.stream (← IO.getStdin)))
      | some _ => pure ((Command.openInput disk inputs ByteArray.empty).map .file)
    match source with
    | .error e => finish (e.outcome "")
    | .ok source =>
      IO.eprint (Text.lines (Command.notices settings player.playback.novel))
      IO.print (Session.opening player)
      playFrom player source (← IO.monoNanosNow)

/-- Carries out a command line. -/
def run (arguments : List String) : IO UInt32 := do
  match Invocation.ofArguments arguments with
  | .error reason => finish (Command.stopped reason)
  | .ok { config, command } =>
    match command with
    | .check novelPath => finish (Command.runCheck (← copy (← diskHere) novelPath) novelPath)
    | .play novelPath savesFolder inputs =>
      let disk ← ([config, novelPath] ++ inputs.toList).foldlM copy (← diskHere)
      play disk (Settings.load disk config) novelPath savesFolder inputs

end VisualNovel.Program

/-- The command line of the program. -/
def main (arguments : List String) : IO UInt32 :=
  match arguments with
  | "novel-check" :: arguments => VisualNovel.Program.review arguments
  | _ => VisualNovel.Program.run arguments
