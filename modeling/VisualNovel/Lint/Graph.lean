import VisualNovel.Playback.Entry

/-!
# The graph of scenes

Scenes are linked by entry jumps, and more loosely by all jumps and branches. `Novel.entryCycles`
finds the cycles of the first kind of link, each once, and `Novel.reachable` the scenes that can
be reached over links of the second kind. Both end because a novel has finitely many scenes.
-/

namespace VisualNovel

/-- The scenes that a node may lead to. -/
def Node.targets : Node → List String
  | .jump link => [link.targetSceneId]
  | .choice menu => menu.branches.map (·.targetSceneId)
  | _ => []

/-- The scenes that a scene may lead to. -/
def Scene.targets (scene : Scene) : List String :=
  scene.nodes.flatMap (·.targets)

namespace Novel

/-! ## Cycles of entry jumps -/

/-- Follows entry jumps from the last scene of a chain until they leave the novel, end, or come
back to the chain; in the last case, the part of the chain that is the cycle. -/
def entryCycleFrom (novel : Novel) (chain : List String) (scene : Scene) : Option (List String) :=
  match scene.entryJump? with
  | none => none
  | some target =>
    if hnew : target ∈ chain then some (chain.dropWhile (· != target))
    else
      match hscene : novel.scene? target with
      | none => none
      | some next =>
        have := length_unvisited_lt hscene hnew
        novel.entryCycleFrom (chain ++ [target]) next
termination_by (novel.unvisited chain).length

/-- Adds a cycle unless it goes through the same scenes as one that is known. -/
def addCycle (cycles : List (List String)) (cycle : List String) : List (List String) :=
  if cycles.any (·.isPerm cycle) then cycles else cycles ++ [cycle]

/-- The cycles of entry jumps, each as the scenes that it goes through. -/
def entryCycles (novel : Novel) : List (List String) :=
  (novel.scenes.filterMap fun scene => novel.entryCycleFrom [scene.id] scene).foldl addCycle []

/-! ## Reachable scenes -/

/-- The scenes that the scene with the given id may lead to; none when there is no such scene. -/
def targetsOf (novel : Novel) (sceneId : String) : List String :=
  ((novel.scene? sceneId).map (·.targets)).getD []

/-- The scenes that some scene may lead to. -/
def allTargets (novel : Novel) : List String :=
  novel.scenes.flatMap (·.targets)

/-- The targets of a scene that have not been reached yet, each once. -/
def newTargets (novel : Novel) (reached : List String) (sceneId : String) : List String :=
  (novel.targetsOf sceneId).eraseDups.filter (!reached.contains ·)

/-- The targets of all scenes that have not been reached. -/
def unreached (novel : Novel) (reached : List String) : List String :=
  novel.allTargets.filter (!reached.contains ·)

/-- What a scene leads to is among the targets of all scenes. -/
theorem mem_allTargets_of_mem_targetsOf {novel : Novel} {sceneId target : String}
    (h : target ∈ novel.targetsOf sceneId) : target ∈ novel.allTargets := by
  unfold targetsOf at h
  cases hscene : novel.scene? sceneId with
  | none => simp [hscene] at h
  | some scene =>
    simp only [hscene, Option.map_some, Option.getD_some] at h
    exact List.mem_flatMap.2 ⟨scene, mem_of_scene? hscene, h⟩

/-- Reaching new targets leaves fewer that have not been reached. -/
theorem length_unreached_lt {novel : Novel} {reached : List String} {sceneId : String}
    (h : novel.newTargets reached sceneId ≠ []) :
    (novel.unreached (reached ++ novel.newTargets reached sceneId)).length
      < (novel.unreached reached).length := by
  obtain ⟨target, htarget⟩ := List.exists_mem_of_ne_nil _ h
  have hsub : novel.unreached (reached ++ novel.newTargets reached sceneId)
      = (novel.unreached reached).filter (!(novel.newTargets reached sceneId).contains ·) := by
    simp only [unreached, List.filter_filter]
    refine List.filter_congr fun x _ => ?_
    by_cases hr : x ∈ reached <;> by_cases hn : x ∈ novel.newTargets reached sceneId <;>
      simp [hr, hn]
  have hmem : target ∈ novel.unreached reached := by
    obtain ⟨hin, hnew⟩ := List.mem_filter.1 htarget
    exact List.mem_filter.2 ⟨mem_allTargets_of_mem_targetsOf (List.mem_eraseDups.1 hin), hnew⟩
  rw [hsub]
  exact List.length_filter_lt_length_iff_exists.2 ⟨target, hmem, by simpa using htarget⟩

/-- Follows links from the scenes in the queue. All of them have been reached. -/
def explore (novel : Novel) (reached : List String) : (queue : List String) → List String
  | [] => reached
  | sceneId :: queue =>
    novel.explore (reached ++ novel.newTargets reached sceneId)
      (queue ++ novel.newTargets reached sceneId)
termination_by queue => ((novel.unreached reached).length, queue.length)
decreasing_by
  by_cases h : novel.newTargets reached sceneId = []
  · simp only [h, List.append_nil]
    exact Prod.Lex.right _ (Nat.lt_succ_self _)
  · exact Prod.Lex.left _ _ (length_unreached_lt h)

/-- The scenes that can be reached from a scene over jumps and branches, itself included. -/
def reachable (novel : Novel) (start : String) : List String :=
  novel.explore [start] [start]

end Novel
end VisualNovel
