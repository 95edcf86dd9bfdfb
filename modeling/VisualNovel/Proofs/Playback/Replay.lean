import VisualNovel.Proofs.Playback.Reachable

/-!
# The stage is derived from the cursor

What is seen at a place in the story is what the nodes of its scene up to that place make of an
empty stage (`Novel.replay`), whatever way led there. `Playback.stage_eq_replay` says so for every
state of play, so that a cursor determines the stage. On the way, the same holds of a reader: its
stage is that of the nodes it has carried out, since it drops the stage when it enters a scene.
-/

namespace VisualNovel
namespace Novel

/-- The stage after a node. -/
def stageAfter (novel : Novel) (stage : Stage) (node : Node) : Stage :=
  match node with
  | .background _ | .character _ | .audio _ => (novel.direct { stage } node).1.stage
  | .dialogue line => (novel.enterSpeaker stage line).1
  | .narration _ | .choice _ | .jump _ => stage

/-- The stage that nodes make of an empty one. -/
def replay (novel : Novel) (nodes : List Node) : Stage :=
  nodes.foldl novel.stageAfter .empty

variable {novel : Novel} {node : Node} {shown : Performance} {nodes : List Node} {i : Nat}

/-- What a cue does to the stage does not depend on the music. -/
theorem stage_direct (hcue : node.isCue = true) :
    (novel.direct shown node).1.stage = novel.stageAfter shown.stage node := by
  cases node with
  | background | character | audio => rfl
  | dialogue | narration | choice | jump => cases hcue

theorem stage_speak (hint : node.isInteractive = true) :
    (novel.speak shown node).1.stage = novel.stageAfter shown.stage node := by
  cases node with
  | dialogue | narration | choice => rfl
  | background | character | audio | jump => cases hint

/-- One more node changes the stage once more. -/
theorem replay_take_succ (hnode : nodes[i]? = some node) :
    novel.replay (nodes.take (i + 1)) = novel.stageAfter (novel.replay (nodes.take i)) node := by
  obtain ⟨hi, rfl⟩ := List.getElem?_eq_some_iff.1 hnode
  simp only [replay, List.take_succ_eq_append_getElem hi, List.foldl_append, List.foldl_cons,
    List.foldl_nil]

end Novel

/-- The stage of a reader is that of the nodes of its scene that it has carried out. -/
def Reader.Replays (novel : Novel) (reader : Reader) : Prop :=
  ∀ scene, novel.scene? reader.sceneId = some scene →
    reader.told ≤ scene.nodes.length ∧
      reader.shown.stage = novel.replay (scene.nodes.take reader.told)

/-- The cursor is at a node of a scene, and the stage is that of the nodes up to it. -/
def Cursor.Replays (novel : Novel) (cursor : Cursor) (shown : Performance) : Prop :=
  ∃ scene, novel.scene? cursor.sceneId = some scene ∧
    cursor.nodeIndex < scene.nodes.length ∧
      shown.stage = novel.replay (scene.nodes.take (cursor.nodeIndex + 1))

/-- Before the first node of a scene the stage is empty. -/
theorem Reader.replays_before (novel : Novel) (id : String) (bgm : Option String) :
    (Reader.before id bgm).Replays novel :=
  fun _ _ => ⟨Nat.zero_le _, rfl⟩

/-- Every step keeps the stage that of the nodes carried out. -/
theorem Reader.Replays.goes {novel : Novel} {reader next : Reader} {new : Cues}
    (h : reader.Replays novel) (hstep : reader.step novel = .goes next new) :
    next.Replays novel := by
  obtain ⟨scene, node, hscene, hnode, ⟨jump, -, rfl, -⟩ | ⟨hcue, -, rfl⟩⟩ := step_goes hstep
  · exact replays_before _ _ _
  · intro other hother
    cases hscene.symm.trans hother
    obtain ⟨hi, -⟩ := List.getElem?_eq_some_iff.1 hnode
    refine ⟨hi, ?_⟩
    rw [Novel.stage_direct hcue, Novel.replay_take_succ hnode, (h scene hscene).2]

/-- A reader halts at a node of its scene, with the stage of the nodes up to it. -/
theorem Reader.Replays.halts {novel : Novel} {reader : Reader} {landing : Landing}
    (h : reader.Replays novel) (hstep : reader.step novel = .halts landing) :
    landing.cursor.Replays novel landing.shown := by
  obtain ⟨scene, hscene, ⟨node, hnode, hint, rfl⟩ | ⟨hne, hend, rfl⟩⟩ := step_halts hstep
  · obtain ⟨hi, -⟩ := List.getElem?_eq_some_iff.1 hnode
    refine ⟨scene, hscene, hi, ?_⟩
    rw [Novel.stage_speak hint, Novel.replay_take_succ hnode, (h scene hscene).2]
  · obtain ⟨hle, hstage⟩ := h scene hscene
    have hpos : 0 < scene.nodes.length := List.length_pos_iff.2 hne
    have htold : reader.told = scene.lastIndex + 1 := by
      simp only [Scene.lastIndex]
      omega
    refine ⟨scene, hscene, ?_, ?_⟩
    · simp only [Scene.lastIndex]
      omega
    · rw [hstage, htold]

/-- That the stage is derived from the place is an invariant of play. -/
theorem Novel.replays_invariant (novel : Novel) :
    novel.Invariant NoForeign (Reader.Replays novel) (Cursor.Replays novel) where
  starts := Reader.replays_before _ _ _
  enters _ _ := Reader.replays_before _ _ _
  advances := by
    rintro cursor shown scene ⟨scene', hscene', -, hstage⟩ hscene hmore - other hother
    cases hscene.symm.trans hscene'
    cases hscene.symm.trans hother
    refine ⟨?_, hstage⟩
    simp only [Scene.lastIndex] at hmore
    change cursor.nodeIndex + 1 ≤ scene.nodes.length
    omega
  goes := Reader.Replays.goes
  halts := Reader.Replays.halts
  loads h := h.elim

/-- In every state of play the cursor is at a node of the novel, and the stage is what the nodes of
the scene up to the cursor make of an empty one. So equal cursors have equal stages. -/
theorem Playback.stage_eq_replay {novel : Novel} {playback : Playback}
    (h : playback.Reachable novel NoForeign) :
    (∃ scene, novel.scene? playback.cursor.sceneId = some scene ∧
      playback.cursor.nodeIndex < scene.nodes.length ∧
      playback.shown.stage
        = novel.replay (scene.nodes.take (playback.cursor.nodeIndex + 1))) ∧
    ∀ other : Playback, other.Reachable novel NoForeign → other.cursor = playback.cursor →
      other.shown.stage = playback.shown.stage := by
  obtain ⟨-, scene, hscene, hindex, hstage⟩ := novel.replays_invariant.of_reachable h
  refine ⟨⟨scene, hscene, hindex, hstage⟩, ?_⟩
  intro other hother hcursor
  obtain ⟨-, scene', hscene', -, hstage'⟩ := novel.replays_invariant.of_reachable hother
  rw [hcursor] at hscene' hstage'
  cases hscene.symm.trans hscene'
  exact hstage'.trans hstage.symm

/-- On the road, the stage is that of its first two nodes: nothing is left of the hall. -/
theorem Playback.stage_eq_replay_stroll :
    (strollChoice.after (.choose "out")).Reachable .stroll NoForeign ∧
    (strollChoice.after (.choose "out")).cursor = ⟨"road", 1⟩ ∧
    ∃ scene, Novel.stroll.scene? "road" = some scene ∧ 1 < scene.nodes.length ∧
      (strollChoice.after (.choose "out")).shown.stage
        = Novel.stroll.replay (scene.nodes.take 2) := by
  have hreach : (strollChoice.after (.choose "out")).Reachable .stroll NoForeign :=
    .call (.call (.start start_stroll) .advance nofun) (.choose "out") nofun
  have hcursor : (strollChoice.after (.choose "out")).cursor = ⟨"road", 1⟩ := by cbv
  obtain ⟨scene, hscene, hindex, hstage⟩ := (stage_eq_replay hreach).1
  rw [hcursor] at hscene hindex hstage
  exact ⟨hreach, hcursor, scene, hscene, hindex, hstage⟩

end VisualNovel
