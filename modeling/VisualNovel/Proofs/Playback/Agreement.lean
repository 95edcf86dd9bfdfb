import VisualNovel.Proofs.Playback.NodeByNode

/-!
# Walks and entries agree with the reader

Play moves in larger pieces than nodes: the walk along a scene (`Novel.walk`), and the entry of a
scene with all its entry jumps (`Novel.enterAfter`). Both end as a `Reader` does. A walk is some
steps of the reader (`Reader.run_walk`). An entry succeeds, or finds a missing or empty scene, where
the reader does, and it is refused as cyclic just when the reader never ends
(`Novel.enterAfter_agrees`): the scenes entered so far then lead on to one another for ever.
-/

namespace VisualNovel

/-! ## Walks -/

section
variable {novel : Novel} {scene : Scene} {cues : Cues} {node : Node} {nodes : List Node}
  {shown : Performance} {i : Nat} {id : String}

/-- A walk goes on over what is directed. -/
theorem Novel.walk_cue (hcue : node.isCue = true) :
    novel.walk i shown cues (node :: nodes)
      = novel.walk (i + 1) (novel.direct shown node).1 (cues ++ (novel.direct shown node).2)
          nodes := by
  cases node with
  | background | character | audio => rfl
  | dialogue | narration | choice | jump => cases hcue

/-- No cues add nothing. -/
@[simp]
theorem Cues.append_none (cues : Cues) : cues ++ Cues.none = cues := by
  change Cues.mk (cues.commands ++ []) (cues.warnings ++ []) = cues
  rw [List.append_nil, List.append_nil]

/-- A walk halts where the player is waited for. -/
theorem Novel.walk_interactive (hint : node.isInteractive = true) :
    novel.walk i shown cues (node :: nodes)
      = ⟨.halted i, (novel.speak shown node).1, cues ++ (novel.speak shown node).2⟩ := by
  cases node with
  | dialogue => rfl
  | narration | choice => simp only [walk, speak, Cues.append_none]
  | background | character | audio | jump => cases hint

/-- How a run goes on from the end of a walk along the given scene. -/
def Walk.resume (novel : Novel) (scene : Scene) (walk : Walk) (n : Nat) :
    Option (Except PlaybackError Landing) :=
  match walk.ending with
  | .halted i => some (.ok ⟨⟨scene.id, i⟩, walk.shown, walk.cues⟩)
  | .ranOut => some (.ok ⟨⟨scene.id, scene.lastIndex⟩, walk.shown, walk.cues⟩)
  | .left target => (Reader.before target walk.shown.bgm).run novel n walk.cues

/-- A walk along what is left of a scene is some steps of the reader there, at least one. -/
theorem Reader.run_walk (shown : Performance) (cues : Cues)
    (hscene : novel.scene? id = some scene) (hne : scene.nodes ≠ [])
    (hrest : scene.nodes.drop i = nodes) :
    ∃ k, 0 < k ∧ ∀ n, (Reader.mk id i shown).run novel (n + k) cues
      = (novel.walk i shown cues nodes).resume novel scene n := by
  have hid : scene.id = id := Novel.id_of_scene? hscene
  induction nodes generalizing i shown cues with
  | nil =>
    have hstep : (Reader.mk id i shown).step novel = _ :=
      step_end hscene hne (List.drop_eq_nil_iff.1 hrest)
    refine ⟨1, Nat.one_pos, fun n => ?_⟩
    rw [run_halts hstep, Cues.append_none, ← hid]
    rfl
  | cons node nodes ih =>
    have hnode : scene.nodes[i]? = some node := by
      rw [← List.head?_drop, hrest, List.head?_cons]
    rcases node.kinds with ⟨jump, rfl⟩ | hint | hcue
    · have hstep : (Reader.mk id i shown).step novel = _ := step_jump hscene hnode
      refine ⟨1, Nat.one_pos, fun n => ?_⟩
      rw [run_goes hstep, Cues.append_none]
      rfl
    · have hstep : (Reader.mk id i shown).step novel = _ := step_interactive hscene hnode hint
      refine ⟨1, Nat.one_pos, fun n => ?_⟩
      rw [run_halts hstep, Novel.walk_interactive hint, ← hid]
      rfl
    · have hstep : (Reader.mk id i shown).step novel = _ := step_cue hscene hnode hcue
      have hrest' : scene.nodes.drop (i + 1) = nodes := by
        rw [← List.tail_drop, hrest, List.tail_cons]
      obtain ⟨k, hk, hrun⟩ := ih (novel.direct shown node).1
        (cues ++ (novel.direct shown node).2) hrest'
      refine ⟨k + 1, Nat.succ_pos k, fun n => ?_⟩
      rw [← Nat.add_assoc, run_goes hstep, Novel.walk_cue hcue]
      exact hrun n

/-- The jump that a node makes. -/
def Node.jumpTarget? : Node → Option String
  | .jump link => some link.targetSceneId
  | _ => none

/-- The entry jump of a scene is the first jump before a node that waits for the player. -/
theorem Scene.entryJump?_eq (scene : Scene) :
    scene.entryJump? = (scene.nodes.takeWhile (!·.isInteractive)).findSome? (·.jumpTarget?) :=
  rfl

/-- A scene with an entry jump has nodes. -/
theorem Scene.ne_nil_of_entryJump? {target : String} (hjump : scene.entryJump? = some target) :
    scene.nodes ≠ [] := by
  intro hnil
  rw [entryJump?_eq, hnil] at hjump
  cases hjump

/-- Where a walk leaves a scene does not depend on what is seen and heard. -/
theorem Novel.walk_left_iff {target : String} :
    (novel.walk i shown cues nodes).ending = .left target
      ↔ (nodes.takeWhile (!·.isInteractive)).findSome? (·.jumpTarget?) = some target := by
  induction nodes generalizing i shown cues with
  | nil => simp [walk]
  | cons node nodes ih =>
    rcases node.kinds with ⟨jump, rfl⟩ | hint | hcue
    · simp [walk, Node.isInteractive, Node.jumpTarget?]
    · simp [walk_interactive hint, hint]
    · have hskip : node.isInteractive = false ∧ node.jumpTarget? = none := by
        cases node <;> first | exact ⟨rfl, rfl⟩ | cases hcue
      rw [walk_cue hcue, ih]
      simp [hskip]

/-- A walk from the first node of a scene leaves it by its entry jump. -/
theorem Novel.walk_left_iff_entryJump? {target : String} :
    (novel.walk i shown cues scene.nodes).ending = .left target
      ↔ scene.entryJump? = some target := by
  rw [walk_left_iff, Scene.entryJump?_eq]

end

/-! ## Entries -/

namespace Novel

/-- Entering the one scene leads on to the other. -/
def EntryLink (novel : Novel) (source target : String) : Prop :=
  ∃ scene, novel.scene? source = some scene ∧ scene.entryJump? = some target

section
variable {novel : Novel} {scene : Scene} {visited : List String} {id : String}
  {bgm : Option String} {cues : Cues}

/-- A scene that was visited on the way is not entered again. -/
theorem enterAfter_of_mem (h : id ∈ visited) :
    novel.enterAfter visited id bgm cues = .error (.cyclicEntry (visited ++ [id])) := by
  rw [enterAfter, dif_pos h]

/-- A scene that is not there is not entered. -/
theorem enterAfter_of_missing (hnew : id ∉ visited) (hscene : novel.scene? id = none) :
    novel.enterAfter visited id bgm cues = .error (.sceneNotFound id) := by
  rw [enterAfter, dif_neg hnew]
  split
  · rfl
  · next scene hsome => rw [hscene] at hsome; cases hsome

/-- A scene without nodes is not entered. -/
theorem enterAfter_of_empty (hnew : id ∉ visited) (hscene : novel.scene? id = some scene)
    (hempty : scene.nodes = []) :
    novel.enterAfter visited id bgm cues = .error (.emptyScene id) := by
  rw [enterAfter, dif_neg hnew]
  split
  · next hnone => rw [hscene] at hnone; cases hnone
  · next scene' hsome =>
    cases hscene.symm.trans hsome
    rw [if_pos (List.isEmpty_iff.2 hempty)]

/-- A scene with nodes is walked along, and left for the target of its entry jump. -/
theorem enterAfter_of_scene (hnew : id ∉ visited) (hscene : novel.scene? id = some scene)
    (hne : scene.nodes ≠ []) :
    novel.enterAfter visited id bgm cues =
      let walk := novel.walk 0 { bgm } cues scene.nodes
      match walk.ending with
      | .halted nodeIndex => .ok ⟨⟨scene.id, nodeIndex⟩, walk.shown, walk.cues⟩
      | .ranOut => .ok ⟨⟨scene.id, scene.lastIndex⟩, walk.shown, walk.cues⟩
      | .left target =>
        novel.enterAfter (visited ++ [id]) target walk.shown.bgm walk.cues := by
  rw [enterAfter, dif_neg hnew]
  split
  · next hnone => rw [hscene] at hnone; cases hnone
  · next scene' hsome =>
    cases hscene.symm.trans hsome
    exact if_neg (mt List.isEmpty_iff.1 hne)

end
end Novel

/-! ## Agreement -/

/-- A movement ends as the reader does, and is refused as cyclic when the reader never ends. -/
def Reader.Agrees (novel : Novel) (reader : Reader) (cues : Cues) :
    Except PlaybackError Landing → Prop
  | .error (.cyclicEntry _) => ∀ n, reader.run novel n cues = none
  | result => ∃ n, reader.run novel n cues = some result

section
variable {novel : Novel} {scene : Scene} {reader next : Reader} {visited : List String}
  {id : String} {bgm : Option String} {cues new : Cues} {result : Except PlaybackError Landing}
  {i k : Nat}

/-- What agrees with a reader some steps later agrees with the reader now. -/
theorem Reader.Agrees.of_run
    (hrun : ∀ n, reader.run novel (n + k) cues = next.run novel n new)
    (h : next.Agrees novel new result) : reader.Agrees novel cues result := by
  unfold Agrees at h ⊢
  split at h
  · intro n
    rw [Option.eq_none_iff_forall_ne_some]
    intro result hsome
    have hlater := run_mono (Nat.le_add_right n k) hsome
    rw [hrun, h] at hlater
    cases hlater
  · obtain ⟨n, hn⟩ := h
    exact ⟨n + k, (hrun n).trans hn⟩

/-- What has ended as the reader did agrees with it. -/
theorem Reader.Agrees.of_ok {landing : Landing}
    (hrun : reader.run novel i cues = some (.ok landing)) :
    reader.Agrees novel cues (.ok landing) :=
  ⟨i, hrun⟩

/-- Scenes whose entries lead on to one another are never left. -/
theorem Reader.run_eq_none_of_endless (endless : String → Prop)
    (hlink : ∀ source, endless source → ∃ target, endless target ∧ novel.EntryLink source target)
    (hid : endless id) (n : Nat) : (Reader.before id bgm).run novel n cues = none := by
  induction n using Nat.strongRecOn generalizing id bgm cues with
  | ind n ih =>
    obtain ⟨target, htarget, scene, hscene, hjump⟩ := hlink id hid
    obtain ⟨k, hk, hrun⟩ := run_walk { bgm } cues hscene (Scene.ne_nil_of_entryJump? hjump)
      (List.drop_zero (l := scene.nodes))
    simp only [Walk.resume, Novel.walk_left_iff_entryJump?.2 hjump] at hrun
    rw [Option.eq_none_iff_forall_ne_some]
    intro result hsome
    rcases Nat.le_total n k with hle | hle
    · -- the reader has not left the scene yet
      have hleft := run_mono hle hsome
      rw [← Nat.zero_add k] at hleft
      exact absurd ((hrun 0).symm.trans hleft) nofun
    · obtain ⟨m, rfl⟩ := Nat.exists_eq_add_of_le' hle
      have hlater := (hrun m).symm.trans hsome
      rw [ih m (Nat.lt_add_of_pos_right hk) htarget] at hlater
      cases hlater

/-- An entry after scenes each of which leads on to another of them, or to the one that is entered
now, agrees with the reader before that scene. -/
theorem Novel.enterAfter_agrees
    (hvisited : ∀ source ∈ visited,
      ∃ target, (target ∈ visited ∨ target = id) ∧ novel.EntryLink source target) :
    (Reader.before id bgm).Agrees novel cues (novel.enterAfter visited id bgm cues) := by
  induction hlen : (novel.unvisited visited).length using Nat.strongRecOn
    generalizing visited id bgm cues with
  | ind len ih =>
    subst hlen
    by_cases hnew : id ∈ visited
    · rw [enterAfter_of_mem hnew]
      refine Reader.run_eq_none_of_endless (· ∈ visited) ?_ hnew
      intro source hsource
      obtain ⟨target, htarget | rfl, hlink⟩ := hvisited source hsource
      · exact ⟨target, htarget, hlink⟩
      · exact ⟨target, hnew, hlink⟩
    cases hscene : novel.scene? id with
    | none =>
      rw [enterAfter_of_missing hnew hscene]
      exact ⟨1, Reader.run_fails (by simp only [Reader.step, Reader.before, hscene])⟩
    | some scene =>
    by_cases hne : scene.nodes = []
    · rw [enterAfter_of_empty hnew hscene hne]
      exact ⟨1, Reader.run_fails (by simp [Reader.step, Reader.before, hscene, hne])⟩
    rw [enterAfter_of_scene hnew hscene hne]
    obtain ⟨k, -, hrun⟩ := Reader.run_walk { bgm } cues hscene hne
      (List.drop_zero (l := scene.nodes))
    simp only [Walk.resume] at hrun
    dsimp only
    cases hend : (novel.walk 0 { bgm } cues scene.nodes).ending with
    | halted i =>
      simp only [hend] at hrun
      exact .of_ok (hrun 0)
    | ranOut =>
      simp only [hend] at hrun
      exact .of_ok (hrun 0)
    | left target =>
      simp only [hend] at hrun
      refine .of_run hrun (ih _ (length_unvisited_lt hscene hnew) ?_ rfl)
      -- the scene just left leads on to the one entered next
      intro source hsource
      rcases List.mem_append.1 hsource with hold | hold
      · obtain ⟨next, hnext | rfl, hlink⟩ := hvisited source hold
        · exact ⟨next, .inl (List.mem_append_left _ hnext), hlink⟩
        · exact ⟨next, .inl (List.mem_append_right _ (List.mem_singleton_self _)), hlink⟩
      · cases List.mem_singleton.1 hold
        exact ⟨target, .inr rfl, scene, hscene, walk_left_iff_entryJump?.1 hend⟩

/-- Entering a scene agrees with the reader before it. -/
theorem Novel.enter_agrees (novel : Novel) (id : String) (bgm : Option String) (cues : Cues) :
    (Reader.before id bgm).Agrees novel cues (novel.enter id bgm cues) :=
  enterAfter_agrees nofun

end
end VisualNovel
