import VisualNovel.Novel.Format

/-!
# Loading a novel for play

A novel that is to be played needs a scene. `Novel.load` reads one from a text, and gives it the
first scene as its start when none is named.
-/

namespace VisualNovel

/-- Why a text gives no novel to play. -/
inductive LoadError where
  | content (error : ContentError)
  /-- The novel has no scenes. -/
  | noScenes (novelId : String)
deriving DecidableEq, Repr

/-- The wording of a load error. -/
def LoadError.message : LoadError → String
  | .content error => error.message
  | .noScenes novelId => s!"作品 '{novelId}' 没有任何场景"

namespace Novel

/-- Names the scene that play starts with; none for a novel without scenes. -/
def withStart? (novel : Novel) : Option Novel :=
  novel.effectiveStart?.map fun start => { novel with startSceneId := start }

/-- Reads a novel to play from a text. -/
def load (text : String) : Except LoadError Novel :=
  match ofText text with
  | .error e => .error (.content e)
  | .ok novel =>
    match novel.withStart? with
    | some novel => .ok novel
    | none => .error (.noScenes novel.id)

end Novel
end VisualNovel
