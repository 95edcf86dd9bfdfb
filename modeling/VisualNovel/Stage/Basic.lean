import VisualNovel.Novel.Basic
import VisualNovel.Schema.Record

/-!
# The stage

The stage is what the player sees behind the text: a background and the characters on screen, in
the order in which they came. A stage that play builds up has each character at most once.
-/

namespace VisualNovel

/-- A character on the stage. -/
structure Placement where
  characterId : String
  position : Position
  emotion : Option String
deriving DecidableEq, Repr

/-- The characters on screen and the background. -/
structure Stage where
  cast : List Placement := []
  backgroundId : Option String := none
deriving DecidableEq, Repr

namespace Stage

/-- The stage with nothing on it. -/
def empty : Stage := {}

/-- Whether nothing is on the stage. -/
def isEmpty (stage : Stage) : Bool :=
  stage.cast.isEmpty && stage.backgroundId.isNone

/-- The place of a character. -/
def placement? (stage : Stage) (characterId : String) : Option Placement :=
  stage.cast.find? (·.characterId == characterId)

/-- Whether the character is on screen. -/
def isOnScreen (stage : Stage) (characterId : String) : Bool :=
  (stage.placement? characterId).isSome

/-- Whether somebody stands at the position. -/
def isOccupied (stage : Stage) (position : Position) : Bool :=
  stage.cast.any (·.position == position)

/-- The positions that a speaker takes by themselves, in order of preference. -/
def entryOrder : List Position := [.center, .left, .right]

/-- The position that a speaker takes: the first free one, or the center when all are taken. -/
def freePosition (stage : Stage) : Position :=
  (entryOrder.find? (!stage.isOccupied ·)).getD .center

/-- Adds a character at the end. -/
def add (stage : Stage) (placement : Placement) : Stage :=
  { stage with cast := stage.cast ++ [placement] }

/-- Changes the first entry of a character. -/
def updateFirst (characterId : String) (f : Placement → Placement) : List Placement → List Placement
  | [] => []
  | placement :: cast =>
    if placement.characterId = characterId then f placement :: cast
    else placement :: updateFirst characterId f cast

/-- Changes the entry of a character who is on screen. -/
def update (stage : Stage) (characterId : String) (f : Placement → Placement) : Stage :=
  { stage with cast := updateFirst characterId f stage.cast }

/-- Takes a character off the stage. -/
def remove (stage : Stage) (characterId : String) : Stage :=
  { stage with cast := stage.cast.filter (·.characterId != characterId) }

end Stage

/-! ## The stage as a document -/

/-- The record of a character on the stage. -/
def Placement.record : Record Placement where
  title := "struct OnScreenCharacter"
  Parts := _
  fields :=
    .cons (.required "characterId" .text) <|
    .cons (.required "position" (.word Position)) <|
    .cons (.omittable "emotion" .text) .nil
  build := fun (characterId, position, emotion, ()) => { characterId, position, emotion }
  parts placement := (placement.characterId, placement.position, placement.emotion, ())

/-- The record of a stage. -/
def Stage.record : Record Stage where
  title := "struct PresentationState"
  Parts := _
  fields :=
    .cons (.required "onScreenCharacters" Placement.record.codec.list) <|
    .cons (.nullable "currentBackgroundId" .text) .nil
  build := fun (cast, backgroundId, ()) => { cast, backgroundId }
  parts stage := (stage.cast, stage.backgroundId, ())

end VisualNovel
