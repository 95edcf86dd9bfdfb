import VisualNovel.Lint.Diagnostic
import VisualNovel.Lint.Graph

/-!
# Looking for faults in a novel

`Novel.analyze` reports, in this order: a missing start, repeated scene ids, scenes without nodes
and bad references scene by scene, cycles of entry jumps, and scenes that cannot be reached.
-/

namespace VisualNovel

/-- A diagnostic about a node of a scene. -/
def Diagnostic.atNode (severity : Severity) (scene : Scene) (node : Node) (message : String)
    (detail : Option String) : Diagnostic :=
  { severity, location := scene.id, nodeId := some node.id, message, detail }

/-! ## Nodes -/

namespace Choice

/-- What is wrong with a branch: its id has been seen among the choice's branches before, or its
target is no scene. -/
def branchReport (novel : Novel) (scene : Scene) (node : Node) (seen : List String)
    (branch : Branch) : Report :=
  (if seen.contains branch.id then
    [.atNode .error scene node s!"选项 id 重复: {branch.id}" none]
  else [])
  ++ if (novel.scene? branch.targetSceneId).isNone then
    [.atNode .error scene node
      s!"选项 '{branch.id}' 的目标场景不存在: {branch.targetSceneId}" (some branch.text)]
  else []

/-- What is wrong with branches that follow those with the given ids. -/
def branchesReport (novel : Novel) (scene : Scene) (node : Node) (seen : List String) :
    List Branch → Report
  | [] => []
  | branch :: branches =>
    branchReport novel scene node seen branch
      ++ branchesReport novel scene node (seen ++ [branch.id]) branches

end Choice

namespace Node

/-- What is wrong with a node of a scene. -/
def report (novel : Novel) (scene : Scene) (node : Node) : Report :=
  match node with
  | .dialogue line =>
    if (novel.character? line.characterId).isNone then
      [.atNode .warn scene node s!"角色不存在: {line.characterId}" none]
    else []
  | .character cue =>
    if (novel.character? cue.characterId).isNone then
      [.atNode .warn scene node s!"角色不存在: {cue.characterId}" none]
    else []
  | .background cue =>
    if (novel.background? cue.backgroundId).isNone then
      [.atNode .warn scene node s!"背景不存在: {cue.backgroundId}" none]
    else []
  | .audio cue =>
    match novel.audioAsset? cue.audioId with
    | none => [.atNode .warn scene node s!"音频不存在: {cue.audioId}" none]
    | some asset =>
      if asset.kind = .sfx ∧ cue.action ≠ .play then
        [.atNode .info scene node s!"音效 '{cue.audioId}' 只响应 play，该指令不会生效" none]
      else []
  | .jump link =>
    if (novel.scene? link.targetSceneId).isNone then
      [.atNode .error scene node s!"跳转目标场景不存在: {link.targetSceneId}" none]
    else []
  | .choice menu =>
    (if menu.branches.isEmpty then [.atNode .error scene node "选择没有任何选项" none] else [])
      ++ Choice.branchesReport novel scene node [] menu.branches
  | .narration _ => []

end Node

/-! ## Scenes and novels -/

namespace Scene

/-- What is wrong with the nodes of a scene. -/
def report (novel : Novel) (scene : Scene) : Report :=
  if scene.nodes.isEmpty then
    [{ severity := .error, location := scene.id, message := "场景没有任何节点" }]
  else scene.nodes.flatMap (·.report novel scene)

/-- An error for each scene whose id has been seen before. -/
def repeatedIds (seen : List String) : List Scene → Report
  | [] => []
  | scene :: scenes =>
    (if seen.contains scene.id then
      [{ severity := .error, location := scene.id, message := "场景 id 重复" }]
    else [])
    ++ repeatedIds (seen ++ [scene.id]) scenes

end Scene

namespace Novel

/-- What is wrong with the scene that the novel names as its start. -/
def startReport (novel : Novel) : Report :=
  if novel.startSceneId.isEmpty then
    [{ severity := .warn, location := novel.id, message := "未设置起始场景，将从第一个场景开始" }]
  else if (novel.scene? novel.startSceneId).isNone then
    [{ severity := .error, location := novel.id
       message := s!"起始场景不存在: {novel.startSceneId}" }]
  else []

/-- The error for a cycle of entry jumps. -/
def cycleDiagnostic (cycle : List String) : Diagnostic :=
  let first := cycle.headD ""
  { severity := .error, location := first
    message := "入场跳转成环: " ++ " -> ".intercalate (cycle ++ [first]) }

/-- The scenes that cannot be reached from the start, unless the start is no scene. -/
def unreachableReport (novel : Novel) (start : String) : Report :=
  if (novel.scene? start).isNone then []
  else
    let reached := novel.reachable start
    (novel.scenes.filter (!reached.contains ·.id)).map fun scene =>
      { severity := .info, location := scene.id, message := "场景无法从起始场景到达" }

/-- All that is wrong with a novel. -/
def analyze (novel : Novel) : Report :=
  match novel.effectiveStart? with
  | none => [{ severity := .error, location := novel.id, message := "作品没有任何场景" }]
  | some start =>
    novel.startReport
      ++ Scene.repeatedIds [] novel.scenes
      ++ novel.scenes.flatMap (·.report novel)
      ++ novel.entryCycles.map cycleDiagnostic
      ++ novel.unreachableReport start

end Novel
end VisualNovel
