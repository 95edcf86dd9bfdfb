import VisualNovel.Novel.Format
import VisualNovel.Playback.Entry
import VisualNovel.Save.Basic

/-!
# Faults

A `Fault` is any of the errors of content, playback and saves, and its wording says which.
-/

namespace VisualNovel

/-- An error of content, playback or saves. -/
inductive Fault where
  | content (error : ContentError)
  | playback (error : PlaybackError)
  | save (error : SaveError)
deriving DecidableEq, Repr

/-- The wording of a fault. -/
def Fault.message : Fault → String
  | .content error => "内容错误: " ++ error.message
  | .playback error => "运行时错误: " ++ error.message
  | .save error => "存档错误: " ++ error.message

end VisualNovel
