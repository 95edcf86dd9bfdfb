import VisualNovel.Novel.Basic
import VisualNovel.Schema.Record

/-!
# The file format of novels

A novel is a JSON document of records. A node is a union: its member `type` names its kind, and
the other members are the fields of that kind. As the kind may come last, a node is held back as
a whole before its fields are read.
-/

namespace VisualNovel

/-! ## Kinds of nodes -/

/-- The record of a dialogue. -/
def Dialogue.record : Record Dialogue where
  title := "struct DialogueNode"
  Parts := _
  fields :=
    .cons (.required "id" .text) <|
    .cons (.required "characterId" .text) <|
    .cons (.omittable "emotion" .text) <|
    .cons (.required "text" .text) .nil
  build := fun (id, characterId, emotion, text, ()) => { id, characterId, emotion, text }
  parts node := (node.id, node.characterId, node.emotion, node.text, ())

/-- The record of a narration. -/
def Narration.record : Record Narration where
  title := "struct NarrationNode"
  Parts := _
  fields :=
    .cons (.required "id" .text) <|
    .cons (.required "text" .text) .nil
  build := fun (id, text, ()) => { id, text }
  parts node := (node.id, node.text, ())

/-- The record of a branch. -/
def Branch.record : Record Branch where
  title := "struct ChoiceOption"
  Parts := _
  fields :=
    .cons (.required "id" .text) <|
    .cons (.required "text" .text) <|
    .cons (.required "targetSceneId" .text) <|
    .cons (.omittable "condition" .text) .nil
  build := fun (id, text, targetSceneId, condition, ()) => { id, text, targetSceneId, condition }
  parts branch := (branch.id, branch.text, branch.targetSceneId, branch.condition, ())

/-- The record of a choice. -/
def Choice.record : Record Choice where
  title := "struct ChoiceNode"
  Parts := _
  fields :=
    .cons (.required "id" .text) <|
    .cons (.omittable "prompt" .text) <|
    .cons (.withDefault "options" Branch.record.codec.list []) .nil
  build := fun (id, prompt, branches, ()) => { id, prompt, branches }
  parts node := (node.id, node.prompt, node.branches, ())

/-- The record of a background node. -/
def BackgroundCue.record : Record BackgroundCue where
  title := "struct BackgroundNode"
  Parts := _
  fields :=
    .cons (.required "id" .text) <|
    .cons (.required "backgroundId" .text) <|
    .cons (.omittable "transition" (.word Transition)) .nil
  build := fun (id, backgroundId, transition, ()) => { id, backgroundId, transition }
  parts node := (node.id, node.backgroundId, node.transition, ())

/-- The record of a character node. -/
def CharacterCue.record : Record CharacterCue where
  title := "struct CharacterNode"
  Parts := _
  fields :=
    .cons (.required "id" .text) <|
    .cons (.required "characterId" .text) <|
    .cons (.required "action" (.word StageAction)) <|
    .cons (.omittable "position" (.word Position)) <|
    .cons (.omittable "emotion" .text) .nil
  build := fun (id, characterId, action, position, emotion, ()) =>
    { id, characterId, action, position, emotion }
  parts node := (node.id, node.characterId, node.action, node.position, node.emotion, ())

/-- The record of an audio node. -/
def AudioCue.record : Record AudioCue where
  title := "struct AudioNode"
  Parts := _
  fields :=
    .cons (.required "id" .text) <|
    .cons (.required "audioId" .text) <|
    .cons (.required "action" (.word AudioAction)) .nil
  build := fun (id, audioId, action, ()) => { id, audioId, action }
  parts node := (node.id, node.audioId, node.action, ())

/-- The record of a jump. -/
def Jump.record : Record Jump where
  title := "struct JumpNode"
  Parts := _
  fields :=
    .cons (.required "id" .text) <|
    .cons (.required "targetSceneId" .text) .nil
  build := fun (id, targetSceneId, ()) => { id, targetSceneId }
  parts node := (node.id, node.targetSceneId, ())

/-! ## Nodes -/

namespace Node

/-- The member that names the kind of a node. -/
def kindName : String := "type"

/-- The kind that a document names. -/
def readKind : Json → Except ReadError NodeKind
  | .string (some name) => Codec.readWord NodeKind name
  | json => .error (.mismatch json .variantName)

/-- Reads the fields of a node of the given kind. -/
def readFields (kind : NodeKind) (fields : Json) : Except ReadError Node :=
  match kind with
  | .dialogue => (Dialogue.record.read .held fields).map dialogue
  | .narration => (Narration.record.read .held fields).map narration
  | .choice => (Choice.record.read .held fields).map choice
  | .background => (BackgroundCue.record.read .held fields).map background
  | .character => (CharacterCue.record.read .held fields).map character
  | .audio => (AudioCue.record.read .held fields).map audio
  | .jump => (Jump.record.read .held fields).map jump

/-- Whether the member names the kind. -/
def isKindMember (member : Json.Text × Json) : Bool :=
  member.1 == some kindName

/-- The kind named among members: the first such member is read before a second one is refused. -/
def kindOf (members : List (Json.Text × Json)) : Except ReadError NodeKind := do
  match members.filter isKindMember with
  | [] => .error (.missingField kindName)
  | (_, json) :: others =>
    let kind ← readKind json
    if others.isEmpty then .ok kind else .error (.duplicateField kindName)

/-- How deep arrays and objects may be nested where a document is held back. -/
def greatestDepth : Nat := 127

/-- Reads a node that stands inside `depth` arrays and objects. It is held back first, so all of
its strings need a text and all of its numbers a value, and its nesting is limited. As an array
it starts with its kind. -/
def readAt (depth : Nat) (json : Json) : Except ReadError Node :=
  match json with
  | .object members =>
    if json.isSound && depth + json.depth ≤ greatestDepth then do
      let kind ← kindOf members
      readFields kind (.object (members.filter (!isKindMember ·)))
    else .error .malformed
  | .array items =>
    if json.isSound && depth + json.depth ≤ greatestDepth then
      match items with
      | [] => .error (.missingField kindName)
      | item :: items => do
        let kind ← readKind item
        readFields kind (.array items)
    else .error .malformed
  | _ => .error (.mismatch json (.taggedUnion "SceneNode"))

/-- The fields of a node as members. -/
def members : Node → List (String × Json)
  | dialogue node => Dialogue.record.members node
  | narration node => Narration.record.members node
  | choice node => Choice.record.members node
  | background node => BackgroundCue.record.members node
  | character node => CharacterCue.record.members node
  | audio node => AudioCue.record.members node
  | jump node => Jump.record.members node

/-- A node as a document, its kind in front. -/
def toJson (node : Node) : Json :=
  .ofMembers ((kindName, .ofString (Worded.word node.kind)) :: node.members)

/-- The codec of nodes that stand inside `depth` arrays and objects. -/
def codec (depth : Nat) : Codec Node where
  read _ := readAt depth
  write := toJson

end Node

/-! ## Assets, scenes and novels -/

/-- The record of a sprite. -/
def Sprite.record : Record Sprite where
  title := "struct CharacterSprite"
  Parts := _
  fields :=
    .cons (.required "id" .text) <|
    .cons (.required "emotion" .text) <|
    .cons (.withDefault "imageUrl" .text "") .nil
  build := fun (id, emotion, imageUrl, ()) => { id, emotion, imageUrl }
  parts sprite := (sprite.id, sprite.emotion, sprite.imageUrl, ())

/-- The record of a character. -/
def Character.record : Record Character where
  title := "struct Character"
  Parts := _
  fields :=
    .cons (.required "id" .text) <|
    .cons (.required "name" .text) <|
    .cons (.required "displayName" .text) <|
    .cons (.withDefault "color" .text "") <|
    .cons (.withDefault "sprites" Sprite.record.codec.list []) .nil
  build := fun (id, name, displayName, color, sprites, ()) =>
    { id, name, displayName, color, sprites }
  parts character :=
    (character.id, character.name, character.displayName, character.color, character.sprites, ())

/-- The record of a background. -/
def Background.record : Record Background where
  title := "struct Background"
  Parts := _
  fields :=
    .cons (.required "id" .text) <|
    .cons (.required "name" .text) <|
    .cons (.withDefault "imageUrl" .text "") .nil
  build := fun (id, name, imageUrl, ()) => { id, name, imageUrl }
  parts background := (background.id, background.name, background.imageUrl, ())

/-- The record of an audio asset. -/
def AudioAsset.record : Record AudioAsset where
  title := "struct AudioAsset"
  Parts := _
  fields :=
    .cons (.required "id" .text) <|
    .cons (.required "name" .text) <|
    .cons (.required "type" (.word AudioKind)) <|
    .cons (.withDefault "audioUrl" .text "") .nil
  build := fun (id, name, kind, audioUrl, ()) => { id, name, kind, audioUrl }
  parts asset := (asset.id, asset.name, asset.kind, asset.audioUrl, ())

/-- The arrays and objects around a node of a novel: the novel, its chapters, a chapter, its
scenes, a scene, and its nodes. -/
def Scene.nodeDepth : Nat := 6

/-- The record of a scene. -/
def Scene.record : Record Scene where
  title := "struct Scene"
  Parts := _
  fields :=
    .cons (.required "id" .text) <|
    .cons (.required "name" .text) <|
    .cons (.withDefault "nodes" (Node.codec nodeDepth).list []) .nil
  build := fun (id, name, nodes, ()) => { id, name, nodes }
  parts scene := (scene.id, scene.name, scene.nodes, ())

/-- The record of a chapter. -/
def Chapter.record : Record Chapter where
  title := "struct Chapter"
  Parts := _
  fields :=
    .cons (.required "id" .text) <|
    .cons (.required "title" .text) <|
    .cons (.withDefault "scenes" Scene.record.codec.list []) .nil
  build := fun (id, title, scenes, ()) => { id, title, scenes }
  parts chapter := (chapter.id, chapter.title, chapter.scenes, ())

/-- Why a text is no novel. -/
inductive ContentError where
  /-- The text cannot be read, for the reason that the message gives. -/
  | malformed (message : String)
deriving DecidableEq, Repr

/-- The wording of a content error. -/
def ContentError.message : ContentError → String
  | .malformed message => "作品数据解析失败: " ++ message

namespace Novel

/-- The record of a novel. -/
def record : Record Novel where
  title := "struct Novel"
  Parts := _
  fields :=
    .cons (.required "id" .text) <|
    .cons (.required "title" .text) <|
    .cons (.withDefault "author" .text "") <|
    .cons (.withDefault "description" .text "") <|
    .cons (.omittable "coverImageUrl" .text) <|
    .cons (.withDefault "characters" Character.record.codec.list []) <|
    .cons (.withDefault "backgrounds" Background.record.codec.list []) <|
    .cons (.withDefault "audio" AudioAsset.record.codec.list []) <|
    .cons (.withDefault "chapters" Chapter.record.codec.list []) <|
    .cons (.withDefault "startSceneId" .text "") <|
    .cons (.omittable "createdAt" .text) <|
    .cons (.omittable "updatedAt" .text) .nil
  build := fun (id, title, author, description, coverImageUrl, characters, backgrounds, audio,
      chapters, startSceneId, createdAt, updatedAt, ()) =>
    { id, title, author, description, coverImageUrl, characters, backgrounds, audio, chapters
      startSceneId, createdAt, updatedAt }
  parts novel :=
    (novel.id, novel.title, novel.author, novel.description, novel.coverImageUrl,
      novel.characters, novel.backgrounds, novel.audio, novel.chapters, novel.startSceneId,
      novel.createdAt, novel.updatedAt, ())

/-- Reads a novel from a text. -/
def ofText (text : String) : Except ContentError Novel :=
  match record.codec.parse text with
  | .ok novel => .ok novel
  | .error e => .error (.malformed e.message)

/-- A novel as text, with a line for every item and member. -/
def toText (novel : Novel) : String :=
  (record.codec.write novel).pretty

end Novel
end VisualNovel
