import VisualNovel.Save.Basic
import VisualNovel.Stage.Direction

/-!
# Walking along a scene

Between two stops, play walks along the nodes of a scene: directions are applied, and the walk
ends at the first node that waits for the player, at a jump, or behind the last node. `Novel.walk`
is that walk; every movement of play is made of it.
-/

namespace VisualNovel

/-- Where a walk ends. -/
inductive WalkEnd where
  /-- At a node that waits for the player. -/
  | halted (nodeIndex : Nat)
  /-- Behind the last node. -/
  | ranOut
  /-- At a jump to the scene. -/
  | left (sceneId : String)
deriving DecidableEq, Repr

/-- A walk: where it ends, what is then seen and heard, and the cues on the way. -/
structure Walk where
  ending : WalkEnd
  shown : Performance
  cues : Cues
deriving DecidableEq, Repr

/-- Walks along nodes, the first of which has the given index. -/
def Novel.walk (novel : Novel) (nodeIndex : Nat) (shown : Performance) (cues : Cues) :
    List Node → Walk
  | [] => ⟨.ranOut, shown, cues⟩
  | node :: nodes =>
    match node with
    | .jump jump => ⟨.left jump.targetSceneId, shown, cues⟩
    | .dialogue _ =>
      let (shown, new) := novel.speak shown node
      ⟨.halted nodeIndex, shown, cues ++ new⟩
    | .narration _ | .choice _ => ⟨.halted nodeIndex, shown, cues⟩
    | .background _ | .character _ | .audio _ =>
      let (shown, new) := novel.direct shown node
      novel.walk (nodeIndex + 1) shown (cues ++ new) nodes

end VisualNovel
