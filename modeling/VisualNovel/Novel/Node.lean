import VisualNovel.Schema.Codec

/-!
# Scene nodes

A scene is a sequence of nodes of seven kinds. Dialogue, narration and choices wait for the
player; background, character and audio nodes direct what is seen and heard; a jump leads to
another scene.
-/

namespace VisualNovel

/-! ## Words of the format -/

/-- Where a character stands. -/
inductive Position where
  | left
  | center
  | right
deriving DecidableEq, Repr

instance : Worded Position where
  all := [.left, .center, .right]
  word
    | .left => "left"
    | .center => "center"
    | .right => "right"

/-- The position that a name stands for, in any case of ASCII letters; `middle` is the center. No
other letter has a lower case that is part of these names. -/
def Position.ofName? (name : String) : Option Position :=
  match String.ofList (name.toList.map Char.toLower) with
  | "left" => some .left
  | "center" => some .center
  | "middle" => some .center
  | "right" => some .right
  | _ => none

/-- How a new background appears. -/
inductive Transition where
  | fade
  | instant
  | dissolve
deriving DecidableEq, Repr

instance : Worded Transition where
  all := [.fade, .instant, .dissolve]
  word
    | .fade => "fade"
    | .instant => "instant"
    | .dissolve => "dissolve"

/-- What a character does on the stage. -/
inductive StageAction where
  | enter
  | exit
  | move
deriving DecidableEq, Repr

instance : Worded StageAction where
  all := [.enter, .exit, .move]
  word
    | .enter => "enter"
    | .exit => "exit"
    | .move => "move"

/-- What is done with an audio asset. -/
inductive AudioAction where
  | play
  | stop
  | fadeOut
deriving DecidableEq, Repr

instance : Worded AudioAction where
  all := [.play, .stop, .fadeOut]
  word
    | .play => "play"
    | .stop => "stop"
    | .fadeOut => "fade-out"

/-! ## Nodes -/

/-- A line spoken by a character. -/
structure Dialogue where
  id : String
  /-- The character who speaks. -/
  characterId : String
  emotion : Option String
  text : String
deriving DecidableEq, Repr

/-- A line without a speaker. -/
structure Narration where
  id : String
  text : String
deriving DecidableEq, Repr

/-- One way out of a choice. -/
structure Branch where
  id : String
  text : String
  /-- The scene that the branch leads to. -/
  targetSceneId : String
  /-- Kept with the novel and not evaluated. -/
  condition : Option String
deriving DecidableEq, Repr

/-- A question with branches to choose from. -/
structure Choice where
  id : String
  prompt : Option String
  branches : List Branch
deriving DecidableEq, Repr

/-- A change of the background. -/
structure BackgroundCue where
  id : String
  backgroundId : String
  transition : Option Transition
deriving DecidableEq, Repr

/-- An entrance, exit or move of a character. -/
structure CharacterCue where
  id : String
  characterId : String
  action : StageAction
  position : Option Position
  emotion : Option String
deriving DecidableEq, Repr

/-- A direction to the music or a sound effect. -/
structure AudioCue where
  id : String
  audioId : String
  action : AudioAction
deriving DecidableEq, Repr

/-- A change to another scene. -/
structure Jump where
  id : String
  targetSceneId : String
deriving DecidableEq, Repr

/-- A node of a scene. -/
inductive Node where
  | dialogue (node : Dialogue)
  | narration (node : Narration)
  | choice (node : Choice)
  | background (node : BackgroundCue)
  | character (node : CharacterCue)
  | audio (node : AudioCue)
  | jump (node : Jump)
deriving DecidableEq, Repr

/-- The kind of a node. -/
inductive NodeKind where
  | dialogue
  | narration
  | choice
  | background
  | character
  | audio
  | jump
deriving DecidableEq, Repr

instance : Worded NodeKind where
  all := [.dialogue, .narration, .choice, .background, .character, .audio, .jump]
  word
    | .dialogue => "dialogue"
    | .narration => "narration"
    | .choice => "choice"
    | .background => "background"
    | .character => "character"
    | .audio => "audio"
    | .jump => "jump"

namespace Node

/-- The id of a node. -/
def id : Node → String
  | dialogue node => node.id
  | narration node => node.id
  | choice node => node.id
  | background node => node.id
  | character node => node.id
  | audio node => node.id
  | jump node => node.id

/-- The kind of a node. -/
def kind : Node → NodeKind
  | dialogue _ => .dialogue
  | narration _ => .narration
  | choice _ => .choice
  | background _ => .background
  | character _ => .character
  | audio _ => .audio
  | jump _ => .jump

/-- Whether the node waits for the player. -/
def isInteractive : Node → Bool
  | dialogue _ | narration _ | choice _ => true
  | background _ | character _ | audio _ | jump _ => false

/-- Whether the node passes without waiting for the player. -/
def isDirection (node : Node) : Bool :=
  !node.isInteractive

/-- Whether the node is a choice. -/
def isChoice : Node → Bool
  | choice _ => true
  | _ => false

/-- The text that is shown for the node. -/
def text? : Node → Option String
  | dialogue node => some node.text
  | narration node => some node.text
  | choice node => node.prompt
  | background _ | character _ | audio _ | jump _ => none

end Node

/-- The first branch with the given id. -/
def Choice.branch? (choice : Choice) (id : String) : Option Branch :=
  choice.branches.find? (·.id == id)

end VisualNovel
