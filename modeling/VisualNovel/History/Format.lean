import VisualNovel.History.Basic
import VisualNovel.Schema.Record
import VisualNovel.Schema.Variant

/-!
# The history as a document

An event is an object whose only member is named for the kind of event and holds its fields.
-/

namespace VisualNovel

namespace HistoryEvent

/-- The kinds of events. -/
inductive Kind where
  | line
  | choiceMade
  | sceneEntered
deriving DecidableEq, Repr

instance : Worded Kind where
  all := [.line, .choiceMade, .sceneEntered]
  word
    | .line => "Line"
    | .choiceMade => "ChoiceMade"
    | .sceneEntered => "SceneEntered"

/-- The codec of timestamps. -/
def timestampCodec : Codec Int :=
  .integer "i64"

/-- The fields of a line. -/
def lineRecord : Record (Option String × String × Int) where
  title := "struct variant HistoryEvent::Line"
  Parts := _
  fields :=
    .cons (.nullable "speaker" .text) <|
    .cons (.required "text" .text) <|
    .cons (.required "timestamp" timestampCodec) .nil
  build := fun (speaker, text, timestamp, ()) => (speaker, text, timestamp)
  parts := fun (speaker, text, timestamp) => (speaker, text, timestamp, ())

/-- The fields of a choice. -/
def choiceRecord : Record (Option String × String × Int) where
  title := "struct variant HistoryEvent::ChoiceMade"
  Parts := _
  fields :=
    .cons (.nullable "prompt" .text) <|
    .cons (.required "option" .text) <|
    .cons (.required "timestamp" timestampCodec) .nil
  build := fun (prompt, option, timestamp, ()) => (prompt, option, timestamp)
  parts := fun (prompt, option, timestamp) => (prompt, option, timestamp, ())

/-- The fields of an entered scene. -/
def sceneRecord : Record (String × Int) where
  title := "struct variant HistoryEvent::SceneEntered"
  Parts := _
  fields :=
    .cons (.required "scene_id" .text) <|
    .cons (.required "timestamp" timestampCodec) .nil
  build := fun (sceneId, timestamp, ()) => (sceneId, timestamp)
  parts := fun (sceneId, timestamp) => (sceneId, timestamp, ())

/-- How events of each kind are read. -/
def variant : Kind → Variant HistoryEvent
  | .line => .fields fun source json =>
    (lineRecord.read source json).map fun (speaker, text, t) => line speaker text t
  | .choiceMade => .fields fun source json =>
    (choiceRecord.read source json).map fun (prompt, option, t) => choiceMade prompt option t
  | .sceneEntered => .fields fun source json =>
    (sceneRecord.read source json).map fun (sceneId, t) => sceneEntered sceneId t

/-- An event as a document. -/
def toJson : HistoryEvent → Json
  | line speaker text t =>
    .ofMembers [(Worded.word Kind.line, lineRecord.codec.write (speaker, text, t))]
  | choiceMade prompt option t =>
    .ofMembers [(Worded.word Kind.choiceMade, choiceRecord.codec.write (prompt, option, t))]
  | sceneEntered sceneId t =>
    .ofMembers [(Worded.word Kind.sceneEntered, sceneRecord.codec.write (sceneId, t))]

/-- The codec of events. -/
def codec : Codec HistoryEvent where
  read := Variant.readUnion variant
  write := toJson

end HistoryEvent

/-- The record of a history. -/
def History.record : Record History where
  title := "struct History"
  Parts := _
  fields :=
    .cons (.required "events" HistoryEvent.codec.list) <|
    .cons (.required "max_events" (.natural "usize")) .nil
  build := fun (events, limit, ()) => { kept := events.toArray, limit }
  parts history := (history.events, history.limit, ())

end VisualNovel
