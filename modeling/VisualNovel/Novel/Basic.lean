import VisualNovel.Novel.Node

/-!
# Novels

A novel declares its characters, backgrounds and audio, and tells its story in chapters of
scenes. Every look-up by id takes the first match in the order of declaration.
-/

namespace VisualNovel

/-- A picture of a character with one emotion. -/
structure Sprite where
  id : String
  emotion : String
  imageUrl : String
deriving DecidableEq, Repr

/-- A character of the novel. -/
structure Character where
  id : String
  name : String
  /-- The name that the player sees. -/
  displayName : String
  color : String
  sprites : List Sprite
deriving DecidableEq, Repr

/-- A background of the novel. -/
structure Background where
  id : String
  name : String
  imageUrl : String
deriving DecidableEq, Repr

/-- Music plays in a loop, a sound effect plays once. -/
inductive AudioKind where
  | bgm
  | sfx
deriving DecidableEq, Repr

instance : Worded AudioKind where
  all := [.bgm, .sfx]
  word
    | .bgm => "bgm"
    | .sfx => "sfx"

/-- A piece of music or a sound effect. -/
structure AudioAsset where
  id : String
  name : String
  kind : AudioKind
  audioUrl : String
deriving DecidableEq, Repr

/-- A scene: its nodes in the order in which they are told. -/
structure Scene where
  id : String
  name : String
  nodes : List Node
deriving DecidableEq, Repr

/-- A chapter of scenes. -/
structure Chapter where
  id : String
  title : String
  scenes : List Scene
deriving DecidableEq, Repr

/-- A whole novel. -/
structure Novel where
  id : String
  title : String
  author : String
  description : String
  coverImageUrl : Option String
  characters : List Character
  backgrounds : List Background
  audio : List AudioAsset
  chapters : List Chapter
  /-- The scene that the story starts with. -/
  startSceneId : String
  createdAt : Option String
  updatedAt : Option String
deriving DecidableEq, Repr

/-! ## Scenes -/

namespace Scene

/-- The index of the last node; zero in a scene without nodes. -/
def lastIndex (scene : Scene) : Nat :=
  scene.nodes.length - 1

/-- The target of the jump that is met on entering the scene, before anything waits for the
player. -/
def entryJump? (scene : Scene) : Option String :=
  (scene.nodes.takeWhile (!·.isInteractive)).findSome? fun
    | .jump node => some node.targetSceneId
    | _ => none

end Scene

namespace Novel

/-- All scenes, chapter by chapter. -/
def scenes (novel : Novel) : List Scene :=
  novel.chapters.flatMap (·.scenes)

/-- The scene with the given id. -/
def scene? (novel : Novel) (id : String) : Option Scene :=
  novel.chapters.findSome? (·.scenes.find? (·.id == id))

/-- It is the first one in the order of all scenes. -/
theorem scene?_eq_find? (novel : Novel) (id : String) :
    novel.scene? id = novel.scenes.find? (·.id == id) :=
  List.find?_flatMap.symm

/-- The first scene of the novel. -/
def firstScene? (novel : Novel) : Option Scene :=
  novel.scenes.head?

/-- The id of the scene that play starts with: the named one, or that of the first scene when none
is named; none in a novel without scenes. -/
def effectiveStart? (novel : Novel) : Option String :=
  novel.firstScene?.map fun first =>
    if novel.startSceneId.isEmpty then first.id else novel.startSceneId

theorem effectiveStart?_of_cons {novel : Novel} {first : Scene} {others : List Scene}
    (hscenes : novel.scenes = first :: others) :
    novel.effectiveStart?
      = some (if novel.startSceneId = "" then first.id else novel.startSceneId) := by
  simp [effectiveStart?, firstScene?, hscenes]

/-- A novel with a scene has a start. -/
theorem exists_effectiveStart? {novel : Novel} {scene : Scene} (h : scene ∈ novel.scenes) :
    ∃ start, novel.effectiveStart? = some start := by
  cases hscenes : novel.scenes with
  | nil =>
    rw [hscenes] at h
    cases h
  | cons first others => exact ⟨_, effectiveStart?_of_cons hscenes⟩

/-- The character with the given id. -/
def character? (novel : Novel) (id : String) : Option Character :=
  novel.characters.find? (·.id == id)

/-- The background with the given id. -/
def background? (novel : Novel) (id : String) : Option Background :=
  novel.backgrounds.find? (·.id == id)

/-- The audio asset with the given id. -/
def audioAsset? (novel : Novel) (id : String) : Option AudioAsset :=
  novel.audio.find? (·.id == id)

end Novel

/-! ## Pictures and sounds

An asset without an address has none to show or play.
-/

/-- The sprite for an emotion: the first with that emotion, else the first neutral one, else the
first of all. -/
def Character.spriteFor? (character : Character) (emotion : Option String) : Option Sprite :=
  let withEmotion := fun e => character.sprites.find? (·.emotion == e)
  ((emotion.bind withEmotion).or (withEmotion "neutral")).or character.sprites.head?

/-- The address, unless it is empty. -/
def address? (url : String) : Option String :=
  if url.isEmpty then none else some url

namespace Novel

/-- The address of a background's picture. -/
def backgroundUrl? (novel : Novel) (id : String) : Option String :=
  (novel.background? id).bind fun background => address? background.imageUrl

/-- The address of an audio asset. -/
def audioUrl? (novel : Novel) (id : String) : Option String :=
  (novel.audioAsset? id).bind fun asset => address? asset.audioUrl

/-- The address of a character's picture for an emotion. -/
def spriteUrl? (novel : Novel) (id : String) (emotion : Option String) : Option String :=
  ((novel.character? id).bind (·.spriteFor? emotion)).bind fun sprite => address? sprite.imageUrl

end Novel
end VisualNovel
