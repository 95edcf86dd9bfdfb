import VisualNovel.Playback.Walk

/-!
# Entering a scene

A scene is entered with an empty stage and the music going on. The walk from its first node may
end at a jump, and then the target is entered in the same way. Entering a scene a second time on
the way is a cycle of entry jumps. `Novel.enter` ends because each scene is entered at most once.
-/

namespace VisualNovel

/-- Why play cannot go where it should. -/
inductive PlaybackError where
  | sceneNotFound (sceneId : String)
  /-- The novel has no scenes. -/
  | emptyNovel
  /-- The scene has no nodes. -/
  | emptyScene (sceneId : String)
  /-- Entry jumps lead back to a scene that was entered on the way; it comes last once more. -/
  | cyclicEntry (chain : List String)
  | branchNotFound (branchId : String)
  /-- The operation needs another kind of node. -/
  | stateMismatch (expected actual : String)
  /-- A save names a node that its scene does not have. -/
  | invalidSavePosition (sceneId : String) (nodeIndex : Nat)
deriving DecidableEq, Repr

/-- The wording of a playback error. -/
def PlaybackError.message : PlaybackError → String
  | .sceneNotFound sceneId => s!"场景 '{sceneId}' 未找到"
  | .emptyNovel => "作品为空：没有任何章节或场景"
  | .emptyScene sceneId => s!"场景 '{sceneId}' 没有任何内容"
  | .cyclicEntry chain => "入场跳转形成循环: " ++ " -> ".intercalate chain
  | .branchNotFound branchId => s!"选项 '{branchId}' 不存在"
  | .stateMismatch expected actual => s!"当前状态不允许此操作：期望 {expected}，实际 {actual}"
  | .invalidSavePosition sceneId nodeIndex =>
    s!"存档位置无效: 场景 '{sceneId}' 第 {nodeIndex} 个节点"

/-- Where a movement ends: the place, what is then seen and heard, and the cues on the way. -/
structure Landing where
  cursor : Cursor
  shown : Performance
  cues : Cues
deriving DecidableEq, Repr

/-! ## Scenes that have not been entered -/

namespace Novel

/-- The ids of all scenes. -/
def sceneIds (novel : Novel) : List String :=
  novel.scenes.map (·.id)

/-- The ids of the scenes that have not been visited. -/
def unvisited (novel : Novel) (visited : List String) : List String :=
  novel.sceneIds.filter (!visited.contains ·)

/-- A scene that is found has the id that was looked for. -/
theorem id_of_scene? {novel : Novel} {id : String} {scene : Scene}
    (h : novel.scene? id = some scene) : scene.id = id := by
  rw [scene?_eq_find?] at h
  simpa using List.find?_some h

/-- A scene that is found is a scene of the novel. -/
theorem mem_of_scene? {novel : Novel} {id : String} {scene : Scene}
    (h : novel.scene? id = some scene) : scene ∈ novel.scenes :=
  List.mem_of_find?_eq_some (scene?_eq_find? novel id ▸ h)

/-- The id of a scene that is found is an id of the novel. -/
theorem mem_sceneIds_of_scene? {novel : Novel} {id : String} {scene : Scene}
    (h : novel.scene? id = some scene) : id ∈ novel.sceneIds :=
  List.mem_map.2 ⟨scene, mem_of_scene? h, id_of_scene? h⟩

/-- Visiting a scene leaves fewer that have not been visited. -/
theorem length_unvisited_lt {novel : Novel} {visited : List String} {id : String} {scene : Scene}
    (hscene : novel.scene? id = some scene) (hnew : ¬id ∈ visited) :
    (novel.unvisited (visited ++ [id])).length < (novel.unvisited visited).length := by
  have hsub : novel.unvisited (visited ++ [id])
      = (novel.unvisited visited).filter (· != id) := by
    simp only [unvisited, List.filter_filter]
    refine List.filter_congr fun x _ => ?_
    by_cases hx : x = id <;> by_cases hv : x ∈ visited <;> simp [hx, hv]
  have hmem : id ∈ novel.unvisited visited :=
    List.mem_filter.2 ⟨mem_sceneIds_of_scene? hscene, by simpa using hnew⟩
  rw [hsub]
  exact List.length_filter_lt_length_iff_exists.2 ⟨id, hmem, by simp⟩

/-! ## The entry -/

/-- Enters a scene after those that were visited on the way. -/
def enterAfter (novel : Novel) (visited : List String) (sceneId : String) (bgm : Option String)
    (cues : Cues) : Except PlaybackError Landing :=
  if hnew : sceneId ∈ visited then .error (.cyclicEntry (visited ++ [sceneId]))
  else
    match hscene : novel.scene? sceneId with
    | none => .error (.sceneNotFound sceneId)
    | some scene =>
      if scene.nodes.isEmpty then .error (.emptyScene sceneId)
      else
        let walk := novel.walk 0 { bgm } cues scene.nodes
        match walk.ending with
        | .halted nodeIndex => .ok ⟨⟨scene.id, nodeIndex⟩, walk.shown, walk.cues⟩
        | .ranOut => .ok ⟨⟨scene.id, scene.lastIndex⟩, walk.shown, walk.cues⟩
        | .left target =>
          have := length_unvisited_lt hscene hnew
          novel.enterAfter (visited ++ [sceneId]) target walk.shown.bgm walk.cues
termination_by (novel.unvisited visited).length

/-- Enters a scene. -/
def enter (novel : Novel) (sceneId : String) (bgm : Option String) (cues : Cues) :
    Except PlaybackError Landing :=
  novel.enterAfter [] sceneId bgm cues

end Novel
end VisualNovel
