import VisualNovel.Proofs.Playback.Reachable

/-!
# Where play rests

Play rests at a node that waits for the player, or at the cue that ends a scene, and it has passed
neither a choice nor a jump of that scene (`Scene.RestsAt`). For a reader this is so because it
halts at the one and leaves the scene at the other, so that only cues are left to pass
(`Reader.Passes`). `Playback.rests` says it for every state of play. So a choice is left only by
choosing or for another scene, and play has ended only where nothing follows.
-/

namespace VisualNovel

/-- Whether the story leaves the scene at the node, for its target or for one of several. -/
def Node.isFork : Node → Bool
  | .choice _ | .jump _ => true
  | .dialogue _ | .narration _ | .background _ | .character _ | .audio _ => false

theorem Node.isFork_of_isCue {node : Node} (hcue : node.isCue = true) : node.isFork = false := by
  cases node with
  | background | character | audio => rfl
  | dialogue | narration | choice | jump => cases hcue

/-- What is not a choice and waits for the player does not lead out of the scene. -/
theorem Node.isFork_of_isInteractive {node : Node} (hint : node.isInteractive = true)
    (hchoice : ∀ menu, node ≠ .choice menu) : node.isFork = false := by
  cases node with
  | dialogue | narration => rfl
  | choice menu => exact absurd rfl (hchoice menu)
  | background | character | audio | jump => cases hint

/-- Play can rest at the node with the given index, and no earlier node leads out of the scene. -/
structure Scene.RestsAt (scene : Scene) (nodeIndex : Nat) : Prop where
  node : ∃ node, scene.nodes[nodeIndex]? = some node ∧
    (node.isInteractive = true ∨ node.isCue = true ∧ nodeIndex + 1 = scene.nodes.length)
  passed : ∀ earlier ∈ scene.nodes.take nodeIndex, earlier.isFork = false

/-- The nodes that the reader has carried out do not lead out of the scene, and the last of them is
a cue when they are all. -/
def Reader.Passes (novel : Novel) (reader : Reader) : Prop :=
  ∀ scene, novel.scene? reader.sceneId = some scene →
    reader.told ≤ scene.nodes.length ∧
      (∀ earlier ∈ scene.nodes.take reader.told, earlier.isFork = false) ∧
        (reader.told = scene.nodes.length → ∀ last ∈ scene.nodes.getLast?, last.isCue = true)

/-- The cursor is where play can rest in its scene. -/
def Cursor.Rests (novel : Novel) (cursor : Cursor) : Prop :=
  ∃ scene, novel.scene? cursor.sceneId = some scene ∧ scene.RestsAt cursor.nodeIndex

section
variable {novel : Novel} {reader next : Reader} {new : Cues} {landing : Landing} {scene : Scene}
  {cursor : Cursor} {i : Nat} {node : Node}

/-- One more node that stays in the scene has been passed. -/
theorem Scene.passed_succ (hpassed : ∀ earlier ∈ scene.nodes.take i, earlier.isFork = false)
    (hnode : scene.nodes[i]? = some node) (hfork : node.isFork = false) :
    ∀ earlier ∈ scene.nodes.take (i + 1), earlier.isFork = false := by
  obtain ⟨hi, rfl⟩ := List.getElem?_eq_some_iff.1 hnode
  rw [List.take_succ_eq_append_getElem hi]
  intro earlier hearlier
  rcases List.mem_append.1 hearlier with hold | hlast
  · exact hpassed earlier hold
  · cases List.mem_singleton.1 hlast
    exact hfork

/-- Before the first node nothing has been passed. -/
theorem Reader.passes_before (novel : Novel) (id : String) (bgm : Option String) :
    (Reader.before id bgm).Passes novel := by
  refine fun scene _ => ⟨Nat.zero_le _, nofun, fun hnone last hlast => ?_⟩
  have hnil : scene.nodes = [] := List.eq_nil_of_length_eq_zero hnone.symm
  rw [hnil] at hlast
  cases hlast

/-- A reader goes on over cues only, unless it leaves the scene. -/
theorem Reader.Passes.goes (h : reader.Passes novel) (hstep : reader.step novel = .goes next new) :
    next.Passes novel := by
  obtain ⟨scene, node, hscene, hnode, ⟨jump, -, rfl, -⟩ | ⟨hcue, -, rfl⟩⟩ := step_goes hstep
  · exact passes_before _ _ _
  · intro other hother
    cases hscene.symm.trans hother
    obtain ⟨-, hpassed, -⟩ := h scene hscene
    obtain ⟨hi, -⟩ := List.getElem?_eq_some_iff.1 hnode
    refine ⟨hi, Scene.passed_succ hpassed hnode (Node.isFork_of_isCue hcue), ?_⟩
    intro hall last hlast
    have hindex : scene.nodes.length - 1 = reader.told := by
      rw [← hall]
      rfl
    rw [List.getLast?_eq_getElem?, hindex, hnode] at hlast
    cases hlast
    exact hcue

/-- A reader halts where play can rest. -/
theorem Reader.Passes.halts (h : reader.Passes novel) (hstep : reader.step novel = .halts landing) :
    landing.cursor.Rests novel := by
  obtain ⟨scene, hscene, ⟨node, hnode, hint, rfl⟩ | ⟨hne, hend, rfl⟩⟩ := step_halts hstep
  · exact ⟨scene, hscene, ⟨node, hnode, .inl hint⟩, (h scene hscene).2.1⟩
  · obtain ⟨hle, hpassed, hlast⟩ := h scene hscene
    have htold : reader.told = scene.nodes.length := Nat.le_antisymm hle hend
    have hpos : 0 < scene.nodes.length := List.length_pos_iff.2 hne
    have hnode : scene.nodes[scene.lastIndex]? = some (scene.nodes.getLast hne) := by
      rw [Scene.lastIndex, ← List.getLast?_eq_getElem?, List.getLast?_eq_some_getLast hne]
    have hcue := hlast htold _ (List.getLast?_eq_some_getLast hne)
    refine ⟨scene, hscene, ⟨_, hnode, .inr ⟨hcue, ?_⟩⟩, fun earlier hearlier => ?_⟩
    · exact Nat.sub_add_cancel hpos
    · refine hpassed earlier (List.take_subset_take_left _ ?_ hearlier)
      exact (Nat.sub_le _ _).trans hend

/-- A reader goes on from where play rests, unless that is a choice. -/
theorem Cursor.Rests.advances {shown : Performance} (h : cursor.Rests novel)
    (hscene : novel.scene? cursor.sceneId = some scene) (hmore : cursor.nodeIndex < scene.lastIndex)
    (hchoice : ∀ menu, scene.nodes[cursor.nodeIndex]? ≠ some (.choice menu)) :
    (Reader.mk cursor.sceneId (cursor.nodeIndex + 1) shown).Passes novel := by
  obtain ⟨scene', hscene', ⟨node, hnode, hrest⟩, hpassed⟩ := h
  cases hscene.symm.trans hscene'
  simp only [Scene.lastIndex] at hmore
  have hfork : node.isFork = false := by
    rcases hrest with hint | ⟨hcue, -⟩
    · refine Node.isFork_of_isInteractive hint fun menu hmenu => hchoice menu ?_
      rw [hnode, hmenu]
    · exact Node.isFork_of_isCue hcue
  intro other hother
  cases hscene.symm.trans hother
  refine ⟨?_, Scene.passed_succ hpassed hnode hfork, fun hall => ?_⟩
  · change cursor.nodeIndex + 1 ≤ scene.nodes.length
    omega
  · change cursor.nodeIndex + 1 = scene.nodes.length at hall
    omega

end

/-- That play rests only where it can is an invariant of play. -/
theorem Novel.rests_invariant (novel : Novel) :
    novel.Invariant NoForeign (Reader.Passes novel) (fun cursor _ => cursor.Rests novel) where
  starts := Reader.passes_before _ _ _
  enters _ _ := Reader.passes_before _ _ _
  advances := Cursor.Rests.advances
  goes := Reader.Passes.goes
  halts := Reader.Passes.halts
  loads h := h.elim

namespace Playback

section
variable {playback : Playback} {scene : Scene} {node : Node}

/-- The node under the cursor, found through its scene. -/
theorem currentNode?_eq (hscene : playback.novel.scene? playback.cursor.sceneId = some scene) :
    playback.currentNode? = scene.nodes[playback.cursor.nodeIndex]? := by
  simp only [currentNode?, hscene, Option.bind_some]

/-- Nothing is waited for at a cue only. -/
theorem waiting_eq_ended_iff (hnode : playback.currentNode? = some node) :
    playback.waiting = .ended ↔ node.isInteractive = false := by
  simp only [waiting, hnode]
  cases node <;> simp [Node.isInteractive]

/-- Going on from a choice does nothing. -/
theorem advance_of_choice {menu : Choice}
    (hscene : playback.novel.scene? playback.cursor.sceneId = some scene)
    (hnode : playback.currentNode? = some (.choice menu)) :
    playback.advance = .ok (playback, playback.idle) := by
  simp only [advance_eq, hscene, atChoice_iff.2 ⟨menu, hnode⟩, Bool.or_true, if_true]

end

/-- In every state of play the cursor is at a node of the novel that waits for the player, or at a
cue behind which its scene has no nodes, and no earlier node of the scene is a choice or a jump.
Going on does not pass a choice, and play has ended only where the scene has. -/
theorem rests {novel : Novel} {playback : Playback} (h : playback.Reachable novel NoForeign) :
    ∃ scene node, novel.scene? playback.cursor.sceneId = some scene ∧
      scene.nodes[playback.cursor.nodeIndex]? = some node ∧
      (node.isInteractive = true ∨
        node.isCue = true ∧ playback.cursor.nodeIndex + 1 = scene.nodes.length) ∧
      (∀ earlier ∈ scene.nodes.take playback.cursor.nodeIndex,
        (∀ menu, earlier ≠ .choice menu) ∧ ∀ jump, earlier ≠ .jump jump) ∧
      (∀ menu, node = .choice menu → playback.advance = .ok (playback, playback.idle)) ∧
      (playback.waiting = .ended → scene.nodes.drop (playback.cursor.nodeIndex + 1) = []) := by
  obtain ⟨rfl, scene, hscene, ⟨node, hnode, hrest⟩, hpassed⟩ :=
    novel.rests_invariant.of_reachable h
  have hcurrent : playback.currentNode? = some node := (currentNode?_eq hscene).trans hnode
  refine ⟨scene, node, hscene, hnode, hrest, fun earlier hearlier => ?_, ?_, fun hended => ?_⟩
  · have hfork := hpassed earlier hearlier
    constructor <;> rintro _ rfl <;> cases hfork
  · rintro menu rfl
    exact advance_of_choice hscene hcurrent
  · rw [waiting_eq_ended_iff hcurrent] at hended
    rcases hrest with hint | ⟨-, hlast⟩
    · rw [hended] at hint
      cases hint
    · exact List.drop_eq_nil_iff.2 hlast.ge

/-- The stroll rests at its choice, two nodes behind, which going on does not pass. -/
theorem rests_stroll :
    strollChoice.Reachable .stroll NoForeign ∧ strollChoice.cursor = ⟨"hall", 2⟩ ∧
    ∃ scene node, Novel.stroll.scene? "hall" = some scene ∧ scene.nodes[2]? = some node ∧
      (node.isInteractive = true ∨ node.isCue = true ∧ 2 + 1 = scene.nodes.length) ∧
      (∀ menu, node = .choice menu →
        strollChoice.advance = .ok (strollChoice, strollChoice.idle)) := by
  have hreach : strollChoice.Reachable .stroll NoForeign := .call (.start start_stroll) .advance nofun
  have hcursor : strollChoice.cursor = ⟨"hall", 2⟩ := by cbv
  obtain ⟨scene, node, hscene, hnode, hrest, -, hstay, -⟩ := rests hreach
  rw [hcursor] at hscene hnode hrest
  exact ⟨hreach, hcursor, scene, node, hscene, hnode, hrest, hstay⟩

end Playback
end VisualNovel
