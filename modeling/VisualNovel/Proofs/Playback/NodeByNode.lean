import VisualNovel.Playback.Basic

/-!
# Reading node by node

A `Reader` carries out a novel one node at a time: `Reader.step` looks at the next node of its
scene and at nothing else, and `Reader.run` repeats that until the reader halts, fails, or has made
a given number of steps. What is shown of all runs here comes from single steps:
`Reader.run_invariant` carries what a step keeps to the step in which the reader halts.
-/

namespace VisualNovel

/-! ## Kinds of nodes -/

/-- Whether the node directs what is seen or heard. -/
def Node.isCue : Node → Bool
  | .background _ | .character _ | .audio _ => true
  | .dialogue _ | .narration _ | .choice _ | .jump _ => false

/-- A node is a jump, waits for the player, or is a cue. -/
theorem Node.kinds (node : Node) :
    (∃ jump, node = .jump jump) ∨ node.isInteractive = true ∨ node.isCue = true := by
  cases node with
  | jump jump => exact .inl ⟨jump, rfl⟩
  | dialogue | narration | choice => exact .inr (.inl rfl)
  | background | character | audio => exact .inr (.inr rfl)

/-! ## The reader -/

/-- Somebody who carries out a novel node by node. -/
structure Reader where
  sceneId : String
  /-- How many nodes of the scene have been carried out. -/
  told : Nat
  shown : Performance

/-- A reader before the first node of a scene, with nothing on the stage. -/
def Reader.before (sceneId : String) (bgm : Option String) : Reader :=
  ⟨sceneId, 0, { bgm }⟩

/-- What a single step of a reader leads to, with the cues of that step. -/
inductive Stride where
  | goes (reader : Reader) (cues : Cues)
  | halts (landing : Landing)
  | fails (error : PlaybackError)

namespace Reader

/-- Carries out the next node. A reader halts at a node that waits for the player and behind the
last node of a scene. -/
def step (novel : Novel) (reader : Reader) : Stride :=
  match novel.scene? reader.sceneId with
  | none => .fails (.sceneNotFound reader.sceneId)
  | some scene =>
    match scene.nodes[reader.told]? with
    | none =>
      if scene.nodes.isEmpty then .fails (.emptyScene reader.sceneId)
      else .halts ⟨⟨reader.sceneId, scene.lastIndex⟩, reader.shown, .none⟩
    | some node =>
      match node with
      | .jump jump => .goes (.before jump.targetSceneId reader.shown.bgm) .none
      | .dialogue _ =>
        let (shown, cues) := novel.speak reader.shown node
        .halts ⟨⟨reader.sceneId, reader.told⟩, shown, cues⟩
      | .narration _ | .choice _ => .halts ⟨⟨reader.sceneId, reader.told⟩, reader.shown, .none⟩
      | .background _ | .character _ | .audio _ =>
        let (shown, cues) := novel.direct reader.shown node
        .goes ⟨reader.sceneId, reader.told + 1, shown⟩ cues

/-- Takes at most `n` steps and collects the cues behind those that came before; none when the
reader has not ended by then. -/
def run (novel : Novel) : (n : Nat) → Reader → Cues → Option (Except PlaybackError Landing)
  | 0, _, _ => none
  | n + 1, reader, cues =>
    match reader.step novel with
    | .goes next new => run novel n next (cues ++ new)
    | .halts landing => some (.ok { landing with cues := cues ++ landing.cues })
    | .fails e => some (.error e)

/-! ## Single steps -/

section
variable {novel : Novel} {scene : Scene} {reader next : Reader} {cues new : Cues}
  {landing : Landing} {node : Node} {e : PlaybackError}

theorem step_jump {jump : Jump} (hscene : novel.scene? reader.sceneId = some scene)
    (hnode : scene.nodes[reader.told]? = some (.jump jump)) :
    reader.step novel = .goes (.before jump.targetSceneId reader.shown.bgm) .none := by
  simp only [step, hscene, hnode]

theorem step_cue (hscene : novel.scene? reader.sceneId = some scene)
    (hnode : scene.nodes[reader.told]? = some node) (hcue : node.isCue = true) :
    reader.step novel
      = .goes ⟨reader.sceneId, reader.told + 1, (novel.direct reader.shown node).1⟩
          (novel.direct reader.shown node).2 := by
  cases node with
  | background | character | audio => simp only [step, hscene, hnode]
  | dialogue | narration | choice | jump => cases hcue

/-- A node that waits for the player may have a speaker, and nothing else happens there. -/
theorem step_interactive (hscene : novel.scene? reader.sceneId = some scene)
    (hnode : scene.nodes[reader.told]? = some node) (hint : node.isInteractive = true) :
    reader.step novel
      = .halts ⟨⟨reader.sceneId, reader.told⟩, (novel.speak reader.shown node).1,
          (novel.speak reader.shown node).2⟩ := by
  cases node with
  | dialogue | narration | choice => simp only [step, hscene, hnode, Novel.speak]
  | background | character | audio | jump => cases hint

theorem step_end (hscene : novel.scene? reader.sceneId = some scene) (hne : scene.nodes ≠ [])
    (hend : scene.nodes.length ≤ reader.told) :
    reader.step novel = .halts ⟨⟨reader.sceneId, scene.lastIndex⟩, reader.shown, .none⟩ := by
  have hnone : scene.nodes[reader.told]? = none := List.getElem?_eq_none hend
  simp only [step, hscene, hnone, List.isEmpty_iff, if_neg hne]

/-- A reader that goes on has met a jump or a cue. -/
theorem step_goes (h : reader.step novel = .goes next new) :
    ∃ scene node, novel.scene? reader.sceneId = some scene ∧
      scene.nodes[reader.told]? = some node ∧
      ((∃ jump, node = .jump jump ∧ next = .before jump.targetSceneId reader.shown.bgm ∧
          new = .none) ∨
        (node.isCue = true ∧ new = (novel.direct reader.shown node).2 ∧
          next = ⟨reader.sceneId, reader.told + 1, (novel.direct reader.shown node).1⟩)) := by
  cases hscene : novel.scene? reader.sceneId with
  | none => simp only [step, hscene] at h; cases h
  | some scene =>
    cases hnode : scene.nodes[reader.told]? with
    | none =>
      simp only [step, hscene, hnode] at h
      split at h <;> cases h
    | some node =>
      refine ⟨scene, node, rfl, hnode, ?_⟩
      rcases node.kinds with ⟨jump, rfl⟩ | hint | hcue
      · rw [step_jump hscene hnode] at h
        cases h
        exact .inl ⟨jump, rfl, rfl, rfl⟩
      · rw [step_interactive hscene hnode hint] at h
        cases h
      · rw [step_cue hscene hnode hcue] at h
        cases h
        exact .inr ⟨hcue, rfl, rfl⟩

/-- A reader that halts is at a node that waits for the player, or behind the last node. -/
theorem step_halts (h : reader.step novel = .halts landing) :
    ∃ scene, novel.scene? reader.sceneId = some scene ∧
      ((∃ node, scene.nodes[reader.told]? = some node ∧ node.isInteractive = true ∧
          landing = ⟨⟨reader.sceneId, reader.told⟩, (novel.speak reader.shown node).1,
            (novel.speak reader.shown node).2⟩) ∨
        (scene.nodes ≠ [] ∧ scene.nodes.length ≤ reader.told ∧
          landing = ⟨⟨reader.sceneId, scene.lastIndex⟩, reader.shown, .none⟩)) := by
  cases hscene : novel.scene? reader.sceneId with
  | none => simp only [step, hscene] at h; cases h
  | some scene =>
    refine ⟨scene, rfl, ?_⟩
    cases hnode : scene.nodes[reader.told]? with
    | none =>
      have hend : scene.nodes.length ≤ reader.told := List.getElem?_eq_none_iff.1 hnode
      by_cases hne : scene.nodes = []
      · simp only [step, hscene, hnode, List.isEmpty_iff, if_pos hne] at h
        cases h
      · rw [step_end hscene hne hend] at h
        cases h
        exact .inr ⟨hne, hend, rfl⟩
    | some node =>
      rcases node.kinds with ⟨jump, rfl⟩ | hint | hcue
      · rw [step_jump hscene hnode] at h
        cases h
      · rw [step_interactive hscene hnode hint] at h
        cases h
        exact .inl ⟨node, rfl, hint, rfl⟩
      · rw [step_cue hscene hnode hcue] at h
        cases h

/-! ## Runs -/

variable {n m : Nat} {result : Except PlaybackError Landing}

theorem run_goes (h : reader.step novel = .goes next new) :
    reader.run novel (n + 1) cues = next.run novel n (cues ++ new) := by
  simp only [run, h]

theorem run_halts (h : reader.step novel = .halts landing) :
    reader.run novel (n + 1) cues = some (.ok { landing with cues := cues ++ landing.cues }) := by
  simp only [run, h]

theorem run_fails (h : reader.step novel = .fails e) :
    reader.run novel (n + 1) cues = some (.error e) := by
  simp only [run, h]

/-- A run that has ended ends in the same way when more steps are allowed. -/
theorem run_mono (hle : n ≤ m) (h : reader.run novel n cues = some result) :
    reader.run novel m cues = some result := by
  induction n generalizing m reader cues with
  | zero => cases h
  | succ n ih =>
    obtain ⟨m, rfl⟩ := Nat.exists_eq_add_of_lt hle
    cases hstep : reader.step novel with
    | goes next new =>
      rw [run_goes hstep] at h ⊢
      exact ih (Nat.le_add_right n m) h
    | halts landing =>
      rw [run_halts hstep] at h ⊢
      exact h
    | fails e =>
      rw [run_fails hstep] at h ⊢
      exact h

/-- What holds of a reader and its cues at the outset, and is kept by every step that goes on,
holds of them before the step in which the reader halts. -/
theorem run_invariant (inv : Reader → Cues → Prop)
    (hgoes : ∀ reader cues next new, inv reader cues → reader.step novel = .goes next new →
      inv next (cues ++ new))
    (hinv : inv reader cues) (h : reader.run novel n cues = some (.ok landing)) :
    ∃ last before final, inv last before ∧ last.step novel = .halts final ∧
      landing = { final with cues := before ++ final.cues } := by
  induction n generalizing reader cues with
  | zero => cases h
  | succ n ih =>
    cases hstep : reader.step novel with
    | goes next new =>
      rw [run_goes hstep] at h
      exact ih (hgoes _ _ _ _ hinv hstep) h
    | halts final =>
      rw [run_halts hstep] at h
      cases h
      exact ⟨reader, cues, final, hinv, hstep, rfl⟩
    | fails e =>
      rw [run_fails hstep] at h
      cases h

end
end Reader

end VisualNovel
