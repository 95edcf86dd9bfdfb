import VisualNovel.Lint.Analysis
import VisualNovel.Novel.Loading
import VisualNovel.Proofs.Playback.Replay

/-!
# A novel without errors plays on

`Novel.analyze` looks at a novel as it is written, scene by scene and node by node. A novel in which
it finds no errors is `Novel.Playable`: what leads anywhere leads to a scene, scenes have nodes and
choices have branches, and no entry jumps form a cycle. From that alone every scene can be entered
(`Novel.Playable.enter_ok`), whatever chain of entry jumps begins there. `Playback.playsOn` puts
both together: such a novel starts, no call that it offers fails, and it ends only where nothing
follows.
-/

namespace VisualNovel

/-! ## Reports without errors -/

/-- A report without errors has diagnostics that are none. -/
theorem Report.hasErrors_eq_false_iff {report : Report} :
    report.hasErrors = false ↔ ∀ diagnostic ∈ report, diagnostic.severity ≠ .error := by
  simp [hasErrors, errorCount, count]

/-- Reports that are put together have errors when one of them has. -/
theorem Report.hasErrors_append (report others : Report) :
    (report ++ others).hasErrors = (report.hasErrors || others.hasErrors) := by
  simp [hasErrors, errorCount, count, List.countP_append]

/-- A choice without errors has branches, and they lead to scenes. -/
theorem Choice.target_of_branchesReport {novel : Novel} {scene : Scene} {node : Node}
    {seen : List String} {branches : List Branch}
    (h : ∀ diagnostic ∈ branchesReport novel scene node seen branches,
      diagnostic.severity ≠ .error) :
    ∀ branch ∈ branches, novel.scene? branch.targetSceneId ≠ none := by
  induction branches generalizing seen with
  | nil => nofun
  | cons first branches ih =>
    simp only [branchesReport, List.forall_mem_append] at h
    obtain ⟨hfirst, hrest⟩ := h
    intro branch hbranch
    rcases List.mem_cons.1 hbranch with rfl | hbranch
    · intro hnone
      simp only [branchReport, hnone, Option.isNone_none, if_true, List.forall_mem_append,
        List.forall_mem_singleton] at hfirst
      exact hfirst.2 rfl
    · exact ih hrest branch hbranch

/-- What a node without errors leads to is a scene. -/
theorem Node.target_of_report {novel : Novel} {scene : Scene} {node : Node}
    (h : ∀ diagnostic ∈ node.report novel scene, diagnostic.severity ≠ .error) :
    ∀ target ∈ node.targets, novel.scene? target ≠ none := by
  intro target htarget hnone
  cases node with
  | jump link =>
    cases List.mem_singleton.1 htarget
    simp [report, hnone, Diagnostic.atNode] at h
  | choice menu =>
    simp only [report, List.forall_mem_append] at h
    obtain ⟨branch, hbranch, rfl⟩ := List.mem_map.1 htarget
    exact Choice.target_of_branchesReport h.2 branch hbranch hnone
  | dialogue | narration | background | character | audio => cases htarget

/-- A choice without errors has branches. -/
theorem Node.branches_of_report {novel : Novel} {scene : Scene} {menu : Choice}
    (h : ∀ diagnostic ∈ (Node.choice menu).report novel scene, diagnostic.severity ≠ .error) :
    menu.branches ≠ [] := by
  intro hnil
  simp [report, hnil, Diagnostic.atNode] at h

/-- A scene without errors has nodes, and they are without errors. -/
theorem Scene.nodes_of_report {novel : Novel} {scene : Scene}
    (h : ∀ diagnostic ∈ scene.report novel, diagnostic.severity ≠ .error) :
    scene.nodes ≠ [] ∧ ∀ node ∈ scene.nodes, ∀ diagnostic ∈ node.report novel scene,
      diagnostic.severity ≠ .error := by
  simp only [report] at h
  split at h
  · exact (List.forall_mem_singleton.1 h rfl).elim
  · next hne => exact ⟨mt List.isEmpty_iff.2 hne, List.forall_mem_flatMap.1 h⟩

/-- A cycle stays once it is added. -/
theorem Novel.foldl_addCycle_eq_nil {cycles known : List (List String)}
    (h : cycles.foldl addCycle known = []) : cycles = [] ∧ known = [] := by
  induction cycles generalizing known with
  | nil => exact ⟨rfl, h⟩
  | cons cycle cycles ih =>
    have hadd := (ih h).2
    simp only [addCycle] at hadd
    split at hadd
    · next hknown => simp [hadd] at hknown
    · simp at hadd

/-! ## Playable novels -/

/-- What play needs of a novel. -/
structure Novel.Playable (novel : Novel) : Prop where
  start : ∃ scene, novel.scene? novel.startSceneId = some scene
  nodes : ∀ scene ∈ novel.scenes, scene.nodes ≠ []
  branches : ∀ scene ∈ novel.scenes, ∀ menu, .choice menu ∈ scene.nodes → menu.branches ≠ []
  target : ∀ scene ∈ novel.scenes, ∀ node ∈ scene.nodes, ∀ target ∈ node.targets,
    ∃ next, novel.scene? target = some next
  acyclic : ∀ scene ∈ novel.scenes, novel.entryCycleFrom [scene.id] scene = none

namespace Novel

variable {novel : Novel} {scene next : Scene} {chain visited : List String}
  {id target : String} {bgm : Option String} {cues : Cues}

/-- The id of a scene of the novel is found, be it that of another scene. -/
theorem exists_scene?_of_mem (h : scene ∈ novel.scenes) :
    ∃ found, novel.scene? scene.id = some found := by
  rw [scene?_eq_find?]
  exact Option.isSome_iff_exists.1 (List.find?_isSome.2 ⟨scene, h, by simp⟩)

/-- A loaded novel has a first scene, and that is its start unless it names another. -/
theorem start_of_load {text : String} (h : load text = .ok novel) :
    ∃ first ∈ novel.scenes, novel.startSceneId = first.id ∨ novel.startSceneId.isEmpty = false := by
  simp only [load] at h
  split at h
  · cases h
  · next raw _ =>
    split at h
    · next named hnamed =>
      cases h
      simp only [withStart?, effectiveStart?, Option.map_map, Option.map_eq_some_iff] at hnamed
      obtain ⟨first, hfirst, rfl⟩ := hnamed
      refine ⟨first, List.mem_of_head? hfirst, ?_⟩
      by_cases hempty : raw.startSceneId.isEmpty
      · exact .inl (by simp [hempty])
      · exact .inr (by simp [hempty])
    · cases h

/-- A novel that is loaded without errors is playable. -/
theorem playable_of_load {text : String} (hload : load text = .ok novel)
    (hclean : novel.analyze.hasErrors = false) : novel.Playable := by
  obtain ⟨first, hfirst, hstart⟩ := start_of_load hload
  obtain ⟨start, heffective⟩ := exists_effectiveStart? hfirst
  simp only [Report.hasErrors_eq_false_iff, analyze, heffective, List.forall_mem_append,
    List.forall_mem_flatMap, List.forall_mem_map] at hclean
  obtain ⟨⟨⟨⟨hnamed, -⟩, hscenes⟩, hcycles⟩, -⟩ := hclean
  refine ⟨?start, ?nodes, ?branches, ?target, ?acyclic⟩
  case start =>
    rcases hstart with hstart | hstart
    · rw [hstart]
      exact exists_scene?_of_mem hfirst
    · cases hscene : novel.scene? novel.startSceneId with
      | some scene => exact ⟨scene, rfl⟩
      | none =>
        simp only [startReport, hstart, hscene, Option.isNone_none, if_true, Bool.false_eq_true,
          if_false, List.forall_mem_singleton] at hnamed
        exact absurd rfl hnamed
  case nodes => exact fun scene hscene => (Scene.nodes_of_report (hscenes scene hscene)).1
  case branches =>
    intro scene hscene menu hmenu
    exact Node.branches_of_report ((Scene.nodes_of_report (hscenes scene hscene)).2 _ hmenu)
  case target =>
    intro scene hscene node hnode target htarget
    have hreport := (Scene.nodes_of_report (hscenes scene hscene)).2 node hnode
    exact Option.ne_none_iff_exists'.1 (Node.target_of_report hreport target htarget)
  case acyclic =>
    have hnil : novel.entryCycles = [] :=
      List.eq_nil_iff_forall_not_mem.2 fun cycle hcycle => hcycles cycle hcycle rfl
    exact List.filterMap_eq_nil_iff.1 (foldl_addCycle_eq_nil hnil).1

/-! ## Entering the scenes of a playable novel -/

/-- A jump on the way along nodes is made by one of them. -/
theorem exists_mem_of_walk_left {nodes : List Node} {shown : Performance} {i : Nat}
    (h : (novel.walk i shown cues nodes).ending = .left target) :
    ∃ node ∈ nodes, target ∈ node.targets := by
  obtain ⟨node, hnode, hjump⟩ := List.exists_of_findSome?_eq_some (walk_left_iff.1 h)
  refine ⟨node, (List.takeWhile_sublist _).mem hnode, ?_⟩
  cases node with
  | jump link => exact List.mem_singleton.2 (Option.some.inj hjump).symm
  | dialogue | narration | choice | background | character | audio => cases hjump

/-- A jump back into the chain closes a cycle, which begins at its target. -/
theorem entryCycleFrom_of_mem (hjump : scene.entryJump? = some target) (hmem : target ∈ chain) :
    novel.entryCycleFrom chain scene = some (chain.dropWhile (· != target)) := by
  rw [entryCycleFrom]
  split
  · next hnone => cases hnone.symm.trans hjump
  · next target' hsome =>
    cases hjump.symm.trans hsome
    rw [dif_pos hmem]

/-- A jump to a scene off the chain makes the chain longer. -/
theorem entryCycleFrom_of_scene (hjump : scene.entryJump? = some target) (hnew : target ∉ chain)
    (hnext : novel.scene? target = some next) :
    novel.entryCycleFrom chain scene = novel.entryCycleFrom (chain ++ [target]) next := by
  rw [entryCycleFrom]
  split
  · next hnone => cases hnone.symm.trans hjump
  · next target' hsome =>
    cases hjump.symm.trans hsome
    rw [dif_neg hnew]
    split
    · next hnone => cases hnone.symm.trans hnext
    · next next' hsome' =>
      cases hnext.symm.trans hsome'
      rfl

/-- A jump to a scene that is not there is no cycle. -/
theorem entryCycleFrom_of_missing (hjump : scene.entryJump? = some target) (hnew : target ∉ chain)
    (hnone : novel.scene? target = none) : novel.entryCycleFrom chain scene = none := by
  rw [entryCycleFrom]
  split
  · rfl
  · next target' hsome =>
    cases hjump.symm.trans hsome
    rw [dif_neg hnew]
    split
    · rfl
    · next next hnext => cases hnone.symm.trans hnext

/-- A scene where play stays is no part of a cycle. -/
theorem entryCycleFrom_of_stays (hstays : scene.entryJump? = none) :
    novel.entryCycleFrom chain scene = none := by
  rw [entryCycleFrom]
  split
  · rfl
  · next target hsome => cases hstays.symm.trans hsome

/-- The entry of a scene succeeds when the search for a cycle finds none behind it. -/
theorem Playable.enterAfter_ok (hplay : novel.Playable) (hnew : id ∉ visited)
    (hscene : novel.scene? id = some scene)
    (hcycle : novel.entryCycleFrom (visited ++ [id]) scene = none) :
    ∃ landing, novel.enterAfter visited id bgm cues = .ok landing := by
  induction hlen : (novel.unvisited visited).length using Nat.strongRecOn
    generalizing visited id scene bgm cues with
  | ind len ih =>
    subst hlen
    have hmem : scene ∈ novel.scenes := mem_of_scene? hscene
    rw [enterAfter_of_scene hnew hscene (hplay.nodes scene hmem)]
    dsimp only
    cases hend : (novel.walk 0 { bgm } cues scene.nodes).ending with
    | halted i => exact ⟨_, rfl⟩
    | ranOut => exact ⟨_, rfl⟩
    | left target =>
      have hjump : scene.entryJump? = some target := walk_left_iff_entryJump?.1 hend
      obtain ⟨node, hnode, htarget⟩ := exists_mem_of_walk_left hend
      obtain ⟨next, hnext⟩ := hplay.target scene hmem node hnode target htarget
      -- a target on the way would have been found as a cycle
      have hnewTarget : target ∉ visited ++ [id] := by
        intro hold
        rw [entryCycleFrom_of_mem hjump hold] at hcycle
        cases hcycle
      rw [entryCycleFrom_of_scene hjump hnewTarget hnext] at hcycle
      exact ih _ (length_unvisited_lt hscene hnew) hnewTarget hnext hcycle rfl

/-- Every scene of a playable novel can be entered. -/
theorem Playable.enter_ok (hplay : novel.Playable) (hscene : novel.scene? id = some scene)
    (bgm : Option String) (cues : Cues) : ∃ landing, novel.enter id bgm cues = .ok landing := by
  have hcycle := hplay.acyclic scene (mem_of_scene? hscene)
  rw [id_of_scene? hscene] at hcycle
  exact hplay.enterAfter_ok List.not_mem_nil hscene hcycle

end Novel

/-! ## Calls in a playable novel -/

namespace Playback

/-- A playable novel can be started. -/
theorem start_ok_of_playable {novel : Novel} (hplay : novel.Playable) (clock : Instant) :
    ∃ moved, start novel clock = .ok moved := by
  obtain ⟨scene, hscene⟩ := hplay.start
  obtain ⟨landing, hlanding⟩ := hplay.enter_ok hscene none .none
  have hscenes : novel.scenes ≠ [] := List.ne_nil_of_mem (Novel.mem_of_scene? hscene)
  simp only [start, List.isEmpty_iff, if_neg hscenes, hlanding]
  exact ⟨_, rfl⟩

section
variable {playback : Playback} {scene : Scene} (hplay : playback.novel.Playable)
include hplay

/-- In a playable novel one can jump to every scene. -/
theorem jump_ok_of_playable {id : String} (hscene : playback.novel.scene? id = some scene) :
    ∃ moved, playback.jump id = .ok moved := by
  obtain ⟨landing, hlanding⟩ := hplay.enter_ok hscene playback.shown.bgm .none
  simp only [jump_eq, hlanding]
  exact ⟨_, rfl⟩

/-- A playable novel can be started again. -/
theorem restart_ok_of_playable : ∃ moved, playback.restart = .ok moved := by
  obtain ⟨scene, hscene⟩ := hplay.start
  obtain ⟨landing, hlanding⟩ := hplay.enter_ok hscene none
    (if playback.shown.bgm.isSome then .command .stopBgm else .none)
  simp only [restart_eq, hlanding]
  exact ⟨_, rfl⟩

/-- In a playable novel every branch that is offered can be taken. -/
theorem choose_ok_of_playable {menu : Choice} {branch : Branch}
    (hnode : playback.currentNode? = some (.choice menu)) (hbranch : branch ∈ menu.branches) :
    ∃ moved, playback.choose branch.id = .ok moved := by
  obtain ⟨scene, hscene, hmenu⟩ := Option.bind_eq_some_iff.1 hnode
  obtain ⟨found, hfound⟩ : ∃ found, menu.branch? branch.id = some found :=
    Option.isSome_iff_exists.1 (List.find?_isSome.2 ⟨branch, hbranch, by simp⟩)
  obtain ⟨next, hnext⟩ := hplay.target scene (Novel.mem_of_scene? hscene) _
    (List.mem_of_getElem? hmenu) found.targetSceneId
    (List.mem_map_of_mem (List.mem_of_find?_eq_some hfound))
  obtain ⟨landing, hlanding⟩ := hplay.enter_ok hnext playback.shown.bgm .none
  simp only [choose_eq, hnode, hfound, hlanding]
  exact ⟨_, rfl⟩

/-- In a playable novel play can go on from every scene. -/
theorem advance_ok_of_playable
    (hscene : playback.novel.scene? playback.cursor.sceneId = some scene) :
    ∃ moved, playback.advance = .ok moved := by
  have hmem : scene ∈ playback.novel.scenes := Novel.mem_of_scene? hscene
  simp only [advance_eq, hscene]
  split
  · exact ⟨_, rfl⟩
  · cases hend : (playback.novel.walk (playback.cursor.nodeIndex + 1) playback.shown .none
        (scene.nodes.drop (playback.cursor.nodeIndex + 1))).ending with
    | halted i => exact ⟨_, rfl⟩
    | ranOut => exact ⟨_, rfl⟩
    | left target =>
      obtain ⟨node, hnode, htarget⟩ := Novel.exists_mem_of_walk_left hend
      obtain ⟨next, hnext⟩ := hplay.target scene hmem node (List.mem_of_mem_drop hnode) target htarget
      obtain ⟨landing, hlanding⟩ := hplay.enter_ok hnext _ _
      dsimp only
      rw [hlanding]
      exact ⟨_, rfl⟩

/-- Where a playable novel has not ended, there is a branch to choose or a node to go on to. -/
theorem goes_on_of_playable (hscene : playback.novel.scene? playback.cursor.sceneId = some scene)
    (hmore : playback.isFinished = false) :
    (∃ menu, playback.currentNode? = some (.choice menu) ∧ menu.branches ≠ []) ∨
      ∃ moved step, playback.advance = .ok (moved, step) ∧ step.nodeChanged = true := by
  by_cases hchoice : playback.atChoice = true
  · obtain ⟨menu, hnode⟩ := atChoice_iff.1 hchoice
    obtain ⟨scene', hscene', hmenu⟩ := Option.bind_eq_some_iff.1 hnode
    exact .inl ⟨menu, hnode, hplay.branches scene' (Novel.mem_of_scene? hscene') menu
      (List.mem_of_getElem? hmenu)⟩
  · obtain ⟨⟨moved, step⟩, hmoved⟩ := advance_ok_of_playable hplay hscene
    refine .inr ⟨moved, step, hmoved, ?_⟩
    have hmoves : playback.Moves .advance (moved, step) := moves_of_call hmoved
    cases hmoves with
    | lands => rfl
    | @stays scene' hscene' hstay =>
      cases hscene.symm.trans hscene'
      simp only [isFinished, hscene, hchoice, Bool.not_false, Bool.and_true,
        decide_eq_false_iff_not] at hmore
      exact absurd (hstay.resolve_right hchoice) hmore

end

/-- A novel that is loaded and analyzed without errors can be started, and in every state that play
then reaches with its own saves, no call fails that the novel offers: going on, starting again,
taking a branch of the current choice, and jumping to one of its scenes. Play is never stuck: where
it has not finished, there is a branch to take, or going on reaches another node. -/
theorem playsOn {text : String} {novel : Novel} (hload : Novel.load text = .ok novel)
    (hclean : novel.analyze.hasErrors = false) :
    (∀ clock, ∃ moved, start novel clock = .ok moved) ∧
    ∀ playback : Playback, playback.Reachable novel NoForeign →
      (∃ moved, playback.advance = .ok moved) ∧
      (∃ moved, playback.restart = .ok moved) ∧
      (∀ menu, playback.currentNode? = some (.choice menu) → ∀ branch ∈ menu.branches,
        ∃ moved, playback.choose branch.id = .ok moved) ∧
      (∀ scene ∈ novel.scenes, ∃ moved, playback.jump scene.id = .ok moved) ∧
      (playback.isFinished = false →
        (∃ menu, playback.currentNode? = some (.choice menu) ∧ menu.branches ≠ []) ∨
          ∃ moved step, playback.advance = .ok (moved, step) ∧ step.nodeChanged = true) := by
  have hplay : novel.Playable := Novel.playable_of_load hload hclean
  refine ⟨start_ok_of_playable hplay, fun playback hreach => ?_⟩
  obtain ⟨rfl, scene, hscene, -⟩ := novel.replays_invariant.of_reachable hreach
  refine ⟨advance_ok_of_playable hplay hscene, restart_ok_of_playable hplay, ?_, ?_, ?_⟩
  · exact fun menu hnode branch hbranch => choose_ok_of_playable hplay hnode hbranch
  · intro target htarget
    obtain ⟨found, hfound⟩ := Novel.exists_scene?_of_mem htarget
    exact jump_ok_of_playable hplay hfound
  · exact goes_on_of_playable hplay hscene

end Playback

/-- The text of a novel of two scenes, the first of which is left at once. -/
def Novel.circleText : String :=
  r#"["","","","",null,[],[],[],[["","",[["s","",[["jump","","t"]]],["t","",[["choice","",null,[["o","","s",null]]]]]]]]]"#

/-- A novel of two scenes that lead to each other. -/
def Novel.circle : Novel :=
  { id := "", title := "", author := "", description := "", coverImageUrl := none
    characters := [], backgrounds := [], audio := []
    chapters := [⟨"", "", [⟨"s", "", [.jump ⟨"", "t"⟩]⟩,
      ⟨"t", "", [.choice ⟨"", none, [⟨"o", "", "s", none⟩]⟩]⟩]⟩]
    startSceneId := "s", createdAt := none, updatedAt := none }

/-- The circle is what its text says. -/
theorem Novel.load_circleText : Novel.load Novel.circleText = .ok .circle := by cbv

/-- The circle never ends. -/
theorem Playback.playsOn_circle :
    Novel.load Novel.circleText = .ok .circle ∧ Novel.circle.analyze.hasErrors = false ∧
    (∀ clock, ∃ moved, start .circle clock = .ok moved) ∧
    ∀ playback : Playback, playback.Reachable .circle NoForeign → playback.isFinished = false →
      (∃ menu, playback.currentNode? = some (.choice menu) ∧ menu.branches ≠ []) ∨
        ∃ moved step, playback.advance = .ok (moved, step) ∧ step.nodeChanged = true := by
  have hclean : Novel.circle.analyze.hasErrors = false := by cbv
  obtain ⟨hstart, hplay⟩ := playsOn Novel.load_circleText hclean
  exact ⟨Novel.load_circleText, hclean, hstart, fun playback hreach => (hplay playback hreach).2.2.2.2⟩

end VisualNovel
