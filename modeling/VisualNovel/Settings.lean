import VisualNovel.Disk.Basic
import VisualNovel.Player
import VisualNovel.Schema.Float
import VisualNovel.Schema.Record

/-!
# Settings

`Settings` are what a user can choose about play. They are kept in a JSON file, in which
everything may be left out.
-/

namespace VisualNovel

/-- How text is shown. -/
structure TextSettings where
  /-- Characters per second. -/
  speed : Float32 := Reveal.defaultSpeed
  /-- Whether text is shown bit by bit. -/
  animate : Bool := true
deriving DecidableEq

/-- How music and effects are played. -/
structure AudioSettings where
  /-- How long music takes to fade out. -/
  fadeMilliseconds : Nat := 1500
deriving DecidableEq, Repr

/-- What authors look at. -/
structure DebugSettings where
  /-- Whether the novel is checked before play. -/
  checksNovel : Bool := true
  logLevel : String := "info"
deriving DecidableEq, Repr

/-- What a user can choose. -/
structure Settings where
  /-- The path of the folder with the saves. -/
  savesFolder : String := "saves"
  text : TextSettings := {}
  audio : AudioSettings := {}
  debug : DebugSettings := {}
deriving DecidableEq

/-! ## The file -/

/-- The record of the text settings. -/
def TextSettings.record : Record TextSettings where
  title := "struct TextConfig"
  Parts := _
  fields :=
    .cons (.withDefault "chars_per_second" .float32 Reveal.defaultSpeed) <|
    .cons (.withDefault "animate" .flag true) .nil
  build := fun (speed, animate, ()) => { speed, animate }
  parts settings := (settings.speed, settings.animate, ())

/-- The record of the audio settings. -/
def AudioSettings.record : Record AudioSettings where
  title := "struct AudioConfig"
  Parts := _
  fields := .cons (.withDefault "fade_out_ms" (.natural "u64") 1500) .nil
  build := fun (fadeMilliseconds, ()) => { fadeMilliseconds }
  parts settings := (settings.fadeMilliseconds, ())

/-- The record of the debug settings. -/
def DebugSettings.record : Record DebugSettings where
  title := "struct DebugConfig"
  Parts := _
  fields :=
    .cons (.withDefault "novel_check" .flag true) <|
    .cons (.withDefault "log_level" .text "info") .nil
  build := fun (checksNovel, logLevel, ()) => { checksNovel, logLevel }
  parts settings := (settings.checksNovel, settings.logLevel, ())

/-- The record of the settings. -/
def Settings.record : Record Settings where
  title := "struct PlayerConfig"
  Parts := _
  fields :=
    .cons (.withDefault "saves_dir" (.textAs .path) "saves") <|
    .cons (.withDefault "text" TextSettings.record.codec {}) <|
    .cons (.withDefault "audio" AudioSettings.record.codec {}) <|
    .cons (.withDefault "debug" DebugSettings.record.codec {}) .nil
  build := fun (savesFolder, text, audio, debug, ()) => { savesFolder, text, audio, debug }
  parts settings := (settings.savesFolder, settings.text, settings.audio, settings.debug, ())

/-! ## Faults -/

/-- Why settings cannot be used. -/
inductive SettingsError where
  /-- They cannot be written as text. -/
  | unwritable (message : String)
  /-- The text is no settings. -/
  | malformed (message : String)
  /-- The file cannot be read or written. -/
  | file (error : FileError)
  /-- They make no sense. -/
  | invalid (message : String)
deriving DecidableEq, Repr

/-- The wording of a fault. -/
def SettingsError.message : SettingsError → String
  | .unwritable message => "配置序列化失败: " ++ message
  | .malformed message => "配置解析失败: " ++ message
  | .file error => "配置 IO 错误: " ++ error.message
  | .invalid message => "配置验证失败: " ++ message

namespace Settings

/-- Checks that the settings make sense: text appears and music fades out in some time, and there
is a folder for saves. -/
def validate (settings : Settings) : Except SettingsError Unit :=
  if !(0 < settings.text.speed) then .error (.invalid "文字速度必须大于 0")
  else if settings.audio.fadeMilliseconds = 0 then .error (.invalid "淡出时长必须大于 0")
  else if settings.savesFolder.isEmpty then .error (.invalid "存档目录不能为空")
  else .ok ()

/-- Whether two settings say the same. The path of the folder may be spelled in several ways. -/
def sameAs (settings other : Settings) : Bool :=
  Path.sameAs settings.savesFolder other.savesFolder && settings.text == other.text
    && settings.audio == other.audio && settings.debug == other.debug

/-! ## Reading and writing -/

/-- Reads settings from a text. -/
def ofText (text : String) : Except SettingsError Settings :=
  match record.codec.parse text with
  | .ok settings => .ok settings
  | .error e => .error (.malformed e.message)

/-- Settings as text, with a line for every member. -/
def toText (settings : Settings) : String :=
  (record.codec.write settings).pretty

/-- Reads settings from a file; none when there is nothing at the path. -/
def read (disk : Disk) (path : String) : Except SettingsError (Option Settings) :=
  if disk.contains path then
    match disk.readText path with
    | .ok text => (ofText text).map some
    | .error e => .error (.file e)
  else .ok none

/-- The settings in a file, or the default ones when there are none that can be used. -/
def load (disk : Disk) (path : String) : Settings :=
  match read disk path with
  | .ok (some settings) =>
    match settings.validate with
    | .ok () => settings
    | .error _ => {}
  | _ => {}

/-- Writes settings into a file. -/
def save (disk : Disk) (path : String) (settings : Settings) : Except SettingsError Disk :=
  match disk.write path settings.toText.toUTF8 with
  | .ok disk => .ok disk
  | .error e => .error (.file e)

/-- What the settings say about a session. -/
def options (settings : Settings) : PlayerOptions :=
  { speed := settings.text.speed, animate := settings.text.animate
    fadeMilliseconds := settings.audio.fadeMilliseconds }

end Settings
end VisualNovel
