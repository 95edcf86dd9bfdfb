import VisualNovel.Lint.Analysis

/-!
# How diagnostics are worded

What analysis finds by looking at the start, at the scenes and at their nodes one by one is worded
in a few ways (`Diagnostic.openings`). Messages about cycles of entry jumps and about scenes that
cannot be reached begin differently, so that they can be told from those and from each other.
-/

namespace VisualNovel

/-- How the messages begin that are about the start, a scene or a node by itself. -/
def Diagnostic.openings : List String :=
  ["作品没有任何场景", "未设置起始场景，将从第一个场景开始", "起始场景不存在: ", "场景 id 重复",
    "场景没有任何节点", "角色不存在: ", "背景不存在: ", "音频不存在: ", "音效 '",
    "跳转目标场景不存在: ", "选择没有任何选项", "选项 id 重复: ", "选项 '"]

/-- The message begins in one of these ways. -/
def Diagnostic.Opens (message : String) : Prop :=
  ∃ opening ∈ openings, opening.toList <+: message.toList

/-- All that is reported is about the start, a scene or a node by itself. -/
def Report.IsLocal (report : Report) : Prop :=
  ∀ diagnostic ∈ report, Diagnostic.Opens diagnostic.message

section
variable {text : String} {report others : Report} {diagnostic : Diagnostic}

/-- Each of the openings is a message that begins so. -/
theorem Diagnostic.opens_of_mem (opening : String) (h : opening ∈ openings) : Opens opening :=
  ⟨opening, h, List.prefix_rfl⟩

/-- Only the beginning of a message counts. -/
theorem Diagnostic.Opens.append (h : Opens text) (rest : String) : Opens (text ++ rest) := by
  obtain ⟨opening, hmem, hbegins⟩ := h
  refine ⟨opening, hmem, ?_⟩
  rw [String.toList_append]
  exact hbegins.trans (List.prefix_append _ _)

namespace Report

/-- An empty report is about single parts. -/
theorem isLocal_nil : IsLocal [] :=
  nofun

/-- A report of one diagnostic is told by its message. -/
theorem isLocal_single (h : Diagnostic.Opens diagnostic.message) : IsLocal [diagnostic] :=
  List.forall_mem_singleton.2 h

/-- Reports about single parts may be put together. -/
theorem IsLocal.append (h : IsLocal report) (hothers : IsLocal others) :
    IsLocal (report ++ others) :=
  List.forall_mem_append.2 ⟨h, hothers⟩

/-- What is reported under a condition is of the kind that it always is. -/
theorem IsLocal.ite {p : Prop} [Decidable p] (h : IsLocal report) :
    IsLocal (if p then report else []) := by
  split
  · exact h
  · exact isLocal_nil

end Report
end

section
variable {novel : Novel} {scene : Scene} {node : Node}

/-- What is wrong with branches is reported of each by itself. -/
theorem Choice.isLocal_branchesReport (seen : List String) (branches : List Branch) :
    (branchesReport novel scene node seen branches).IsLocal := by
  induction branches generalizing seen with
  | nil => exact Report.isLocal_nil
  | cons branch branches ih =>
    refine .append (.append (.ite (Report.isLocal_single ?repeated))
      (.ite (Report.isLocal_single ?missing))) (ih _)
    case repeated => exact .append (Diagnostic.opens_of_mem _ (by decide)) _
    case missing =>
      exact .append (.append (.append (Diagnostic.opens_of_mem _ (by decide)) _) _) _

/-- What is wrong with a node is reported of it by itself. -/
theorem Node.isLocal_report : (node.report novel scene).IsLocal := by
  cases node with
  | dialogue | character | background | jump =>
    exact .ite (Report.isLocal_single (.append (Diagnostic.opens_of_mem _ (by decide)) _))
  | narration => exact Report.isLocal_nil
  | choice menu =>
    exact .append
      (.ite (Report.isLocal_single (Diagnostic.opens_of_mem "选择没有任何选项" (by decide))))
      (Choice.isLocal_branchesReport _ _)
  | audio cue =>
    simp only [report]
    split
    · exact Report.isLocal_single (.append (Diagnostic.opens_of_mem _ (by decide)) _)
    · exact .ite (Report.isLocal_single
        (.append (.append (Diagnostic.opens_of_mem _ (by decide)) _) _))

/-- What is wrong with a scene is that it is empty, or is reported of a node. -/
theorem Scene.isLocal_report : (scene.report novel).IsLocal := by
  simp only [report]
  split
  · exact Report.isLocal_single (Diagnostic.opens_of_mem "场景没有任何节点" (by decide))
  · exact List.forall_mem_flatMap.2 fun node _ => Node.isLocal_report

/-- An id that stands for two scenes is reported of the second of them. -/
theorem Scene.isLocal_repeatedIds (seen : List String) (scenes : List Scene) :
    (repeatedIds seen scenes).IsLocal := by
  induction scenes generalizing seen with
  | nil => exact Report.isLocal_nil
  | cons scene scenes ih =>
    exact .append
      (.ite (Report.isLocal_single (Diagnostic.opens_of_mem "场景 id 重复" (by decide)))) (ih _)

/-- What is wrong with the start is reported of the start. -/
theorem Novel.isLocal_startReport (novel : Novel) : novel.startReport.IsLocal := by
  simp only [startReport]
  split
  · refine Report.isLocal_single ?_
    exact Diagnostic.opens_of_mem "未设置起始场景，将从第一个场景开始" (by decide)
  · exact .ite (Report.isLocal_single (.append (Diagnostic.opens_of_mem _ (by decide)) _))

/-- What analysis finds by looking at the start, at the scenes and at their nodes. -/
def Novel.localReport (novel : Novel) : Report :=
  novel.startReport ++ Scene.repeatedIds [] novel.scenes ++ novel.scenes.flatMap (·.report novel)

/-- The report on the start, the scenes and the nodes is about nothing else. -/
theorem Novel.isLocal_localReport (novel : Novel) : novel.localReport.IsLocal :=
  .append (.append novel.isLocal_startReport (Scene.isLocal_repeatedIds _ _))
    (List.forall_mem_flatMap.2 fun _ _ => Scene.isLocal_report)

/-- In a novel without scenes, analysis finds only that. -/
theorem Novel.analyze_of_noScenes (hstart : novel.effectiveStart? = none) :
    novel.scenes = [] ∧ novel.analyze.IsLocal := by
  refine ⟨by simpa [effectiveStart?, firstScene?] using hstart, ?_⟩
  simp only [analyze, hstart]
  exact Report.isLocal_single (Diagnostic.opens_of_mem "作品没有任何场景" (by decide))

/-- Behind what concerns the start, scenes and nodes by themselves, analysis reports cycles and then
scenes that cannot be reached. -/
theorem Novel.analyze_eq {start : String} (hstart : novel.effectiveStart? = some start) :
    novel.analyze
      = novel.localReport ++ novel.entryCycles.map cycleDiagnostic
          ++ novel.unreachableReport start := by
  simp only [analyze, hstart, localReport]

/-- Whatever is reported about reachability is worded alike. -/
theorem Novel.message_of_mem_unreachableReport {start : String} {diagnostic : Diagnostic}
    (h : diagnostic ∈ novel.unreachableReport start) :
    diagnostic.message = "场景无法从起始场景到达" := by
  simp only [unreachableReport] at h
  split at h
  · cases h
  · obtain ⟨scene, -, rfl⟩ := List.mem_map.1 h
    rfl

end
end VisualNovel
