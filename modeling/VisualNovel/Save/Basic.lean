import VisualNovel.Calendar.Parser
import VisualNovel.Calendar.Printer
import VisualNovel.Stage.Basic
import VisualNovel.Text.Quoted

/-!
# Saves

A save is what is needed to go on playing: the place in the story, the stage, the music, and the
time at which it was made. It is stored as a JSON text.
-/

namespace VisualNovel

/-- A place in the story: a scene and the index of a node in it. -/
structure Cursor where
  sceneId : String
  nodeIndex : Nat
deriving DecidableEq, Repr

/-- A saved place in the story. -/
structure Save where
  sceneId : String
  nodeIndex : Nat
  cast : List Placement
  backgroundId : Option String
  bgm : Option String
  savedAt : Instant
deriving DecidableEq

namespace Save

/-- The save of a place, a stage and the music, made at the given time. -/
def make (cursor : Cursor) (stage : Stage) (bgm : Option String) (savedAt : Instant) : Save :=
  { sceneId := cursor.sceneId, nodeIndex := cursor.nodeIndex, cast := stage.cast
    backgroundId := stage.backgroundId, bgm, savedAt }

/-- The saved place. -/
def cursor (save : Save) : Cursor :=
  ⟨save.sceneId, save.nodeIndex⟩

/-- The saved stage. -/
def stage (save : Save) : Stage :=
  ⟨save.cast, save.backgroundId⟩

end Save

/-! ## Faults of saves -/

/-- Why a save cannot be read or stored. -/
inductive SaveError where
  /-- The save cannot be written as text. -/
  | unwritable (message : String)
  /-- The stored text is no save. -/
  | malformed (message : String)
  /-- The store failed. -/
  | storage (message : String)
  /-- The key cannot name a stored text. -/
  | invalidKey (key : String)
deriving DecidableEq, Repr

/-- The wording of a fault. -/
def SaveError.message : SaveError → String
  | .unwritable message => "序列化失败: " ++ message
  | .malformed message => "存档已损坏: " ++ message
  | .storage message => "存储操作失败: " ++ message
  | .invalidKey key => "非法的存档键: " ++ Text.quoted key

/-! ## The text of a save -/

/-- An instant, written as text. -/
def Instant.codec : Codec Instant where
  read _ json :=
    match json with
    | .string (some text) =>
      match Instant.ofText? text with
      | some instant => .ok instant
      | none => .error .invalidDate
    | _ => .error (.mismatch json .date)
  write instant := .ofString instant.toText

namespace Save

/-- The record of a save. -/
def record : Record Save where
  title := "struct SaveData"
  Parts := _
  fields :=
    .cons (.required "currentSceneId" .text) <|
    .cons (.required "currentNodeIndex" (.natural "usize")) <|
    .cons (.required "onScreenCharacters" Placement.record.codec.list) <|
    .cons (.nullable "currentBackgroundId" .text) <|
    .cons (.nullable "currentBgmId" .text) <|
    .cons (.required "savedAt" Instant.codec) .nil
  build := fun (sceneId, nodeIndex, cast, backgroundId, bgm, savedAt, ()) =>
    { sceneId, nodeIndex, cast, backgroundId, bgm, savedAt }
  parts save :=
    (save.sceneId, save.nodeIndex, save.cast, save.backgroundId, save.bgm, save.savedAt, ())

/-- The save as text. -/
def toText (save : Save) : String :=
  (record.codec.write save).compact

/-- Reads a save from a text. -/
def ofText (text : String) : Except SaveError Save :=
  match record.codec.parse text with
  | .ok save => .ok save
  | .error e => .error (.malformed e.message)

end Save
end VisualNovel
