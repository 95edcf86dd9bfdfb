import VisualNovel.Proofs.Playback.Calls

/-!
# Play refines reading node by node

Play moves from stop to stop: it walks along a scene and enters scene after scene in one call. A
`Reader` carries out the same nodes one at a time. `Playback.refines_nodeByNode` says that every
call which departs ends as its reader does: at the same place, with the same stage and music, and
with the cues of all the nodes on the way, each once and in order. A missing or empty scene is
reported by both, and play calls an entry cyclic just when the reader goes on forever.
-/

namespace VisualNovel
namespace Playback

/-- The outcome of a call is that of a reader: where the reader halts, the playback has landed, and
waits there. -/
def EndsAs (outcome : Except PlaybackError (Playback × Step)) (novel : Novel) (reader : Reader)
    (cues : Cues) : Prop :=
  match outcome with
  | .ok (moved, step) =>
    (∃ n, reader.run novel n cues = some (.ok ⟨moved.cursor, moved.shown, step.cues⟩)) ∧
      step.waiting = moved.waiting ∧ step.nodeChanged = true
  | .error (.cyclicEntry _) => ∀ n, reader.run novel n cues = none
  | .error e => ∃ n, reader.run novel n cues = some (.error e)

/-- To land where a reader halts is to end as the reader. -/
theorem endsAs_of_agrees {novel : Novel} {reader : Reader} {cues : Cues} {playback : Playback}
    {result : Except PlaybackError Landing} {entered : Bool}
    (h : reader.Agrees novel cues result) :
    EndsAs (result.map fun landing => playback.land landing entered) novel reader cues := by
  cases result with
  | ok landing => exact ⟨h, rfl, rfl⟩
  | error e => cases e with
    | cyclicEntry chain => exact h
    | sceneNotFound | emptyNovel | emptyScene | branchNotFound | stateMismatch
    | invalidSavePosition => exact h

/-- In a novel with scenes, a start ends as the reader before the start scene does, and in every
state every call that departs ends as its reader does. -/
theorem refines_nodeByNode {novel : Novel} (hscenes : novel.scenes ≠ []) :
    (∀ clock, EndsAs (start novel clock) novel (.before novel.startSceneId none) .none) ∧
    ∀ playback : Playback, playback.novel = novel → ∀ call reader cues,
      playback.Departs call reader cues → EndsAs (playback.call call) novel reader cues := by
  constructor
  · intro clock
    obtain ⟨result, hagrees, heq⟩ := start_eq hscenes clock
    rw [heq]
    exact endsAs_of_agrees hagrees
  · rintro playback rfl call reader cues hdep
    obtain ⟨result, entered, hagrees, -, heq⟩ := hdep.call_eq
    rw [heq]
    exact endsAs_of_agrees hagrees

/-- The way out of the hall leads through the gate. -/
theorem refines_nodeByNode_stroll :
    Novel.stroll.scenes ≠ [] ∧ strollChoice.novel = .stroll ∧
      strollChoice.Departs (.choose "out") (.before "gate" (some "song")) .none ∧
      EndsAs (strollChoice.call (.choose "out")) .stroll (.before "gate" (some "song")) .none := by
  have hscenes : Novel.stroll.scenes ≠ [] := by decide
  have hnovel : strollChoice.novel = .stroll := by cbv
  have hnode : strollChoice.currentNode?
      = some (.choice ⟨"h3", none, [⟨"out", "Out", "gate", none⟩]⟩) := by cbv
  have hbranch : Choice.branch? ⟨"h3", none, [⟨"out", "Out", "gate", none⟩]⟩ "out"
      = some ⟨"out", "Out", "gate", none⟩ := by cbv
  have hbgm : strollChoice.shown.bgm = some "song" := by cbv
  have hdep := Departs.choose hnode hbranch
  rw [hbgm] at hdep
  exact ⟨hscenes, hnovel, hdep, (refines_nodeByNode hscenes).2 _ hnovel _ _ _ hdep⟩

end Playback
end VisualNovel
