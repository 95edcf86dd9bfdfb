import VisualNovel.Proofs.Playback.Cursor
import VisualNovel.Proofs.Player.Words

/-!
# What a session offers

Once the text is shown, a session offers to go on, or to take a branch, or nothing any more because
the scene has ended. It offers exactly one of them where the cursor is settled: at a node that waits
for the player, or at the last node of its scene (`Player.count_offers_iff`). Play settles wherever
it lands, but a save may name any node, and `load` accepts it. So `Player.offers_one` is about
sessions in which no save names a node where play would not settle, and `Player.offers_nothing`
shows a session in which one does.
-/

namespace VisualNovel

/-- The cursor is at a node that waits for the player, or at the last node of its scene. -/
def Cursor.IsSettled (novel : Novel) (cursor : Cursor) : Prop :=
  ∃ scene node, novel.scene? cursor.sceneId = some scene ∧
    scene.nodes[cursor.nodeIndex]? = some node ∧
      (node.isInteractive = true ∨ cursor.nodeIndex + 1 = scene.nodes.length)

/-- If the save names a node of the novel at all, the cursor is settled there. -/
def Save.Settles (novel : Novel) (save : Save) : Prop :=
  ∀ scene, novel.scene? save.sceneId = some scene → save.nodeIndex < scene.nodes.length →
    save.cursor.IsSettled novel

/-- A reader halts where the cursor is settled. -/
theorem Reader.isSettled_of_halts {novel : Novel} {reader : Reader} {landing : Landing}
    (hstep : reader.step novel = .halts landing) : landing.cursor.IsSettled novel := by
  obtain ⟨scene, hscene, ⟨node, hnode, hint, rfl⟩ | ⟨hne, -, rfl⟩⟩ := step_halts hstep
  · exact ⟨scene, node, hscene, hnode, .inl hint⟩
  · have hpos : 0 < scene.nodes.length := List.length_pos_iff.2 hne
    have hlast : scene.lastIndex < scene.nodes.length := Nat.sub_lt hpos Nat.one_pos
    exact ⟨scene, _, hscene, List.getElem?_eq_getElem hlast, .inr (Nat.sub_add_cancel hpos)⟩

/-- That the cursor is settled is an invariant of play with saves where it is. -/
theorem Novel.settled_invariant (novel : Novel) :
    novel.Invariant (Save.Settles novel) (fun _ => True) (fun cursor _ => cursor.IsSettled novel) where
  starts := trivial
  enters _ _ := trivial
  advances _ _ _ _ := trivial
  goes _ _ := trivial
  halts _ hstep := Reader.isSettled_of_halts hstep
  loads hsave hscene hindex := hsave _ hscene hindex

/-- Where the cursor is settled, play has ended only at the end of the scene. -/
theorem Playback.drop_eq_nil_of_ended {playback : Playback}
    (h : playback.cursor.IsSettled playback.novel) (hended : playback.waiting = .ended) :
    ∃ scene, playback.novel.scene? playback.cursor.sceneId = some scene ∧
      scene.nodes.drop (playback.cursor.nodeIndex + 1) = [] := by
  obtain ⟨scene, node, hscene, hnode, hint | hlast⟩ := h
  · have hcurrent : playback.currentNode? = some node := (currentNode?_eq hscene).trans hnode
    rw [waiting_eq_ended_iff hcurrent, hint] at hended
    cases hended
  · exact ⟨scene, hscene, List.drop_eq_nil_iff.2 hlast.ge⟩

namespace Player

variable {σ : Type} {player first : Player σ} {novel : Novel} {allowed : Save → Prop}

/-! ## At a node -/

/-- Whether a session offers to go on, to take a branch, and nothing any more. -/
def offers (player : Player σ) : List Bool :=
  [player.canAdvance, player.choicesVisible, player.playback.isFinished]

/-- Once the text is shown, one thing is offered at a node that waits for the player and at the last
node of a scene, and nothing at any other. -/
theorem count_offers {scene : Scene} {node : Node}
    (hscene : player.playback.novel.scene? player.playback.cursor.sceneId = some scene)
    (hnode : scene.nodes[player.playback.cursor.nodeIndex]? = some node)
    (hshown : player.isRevealing = false) :
    player.offers.count true =
      if node.isInteractive = true ∨ player.playback.cursor.nodeIndex + 1 = scene.nodes.length
      then 1 else 0 := by
  have hcurrent : player.playback.currentNode? = some node :=
    (Playback.currentNode?_eq hscene).trans hnode
  obtain ⟨hindex, -⟩ := List.getElem?_eq_some_iff.1 hnode
  have hlast : scene.lastIndex ≤ player.playback.cursor.nodeIndex
      ↔ player.playback.cursor.nodeIndex + 1 = scene.nodes.length := by
    simp only [Scene.lastIndex]
    omega
  simp only [offers, canAdvance, choicesVisible, hshown, Playback.waiting, Playback.isFinished,
    Playback.atChoice, hscene, hcurrent, hlast]
  by_cases hend : player.playback.cursor.nodeIndex + 1 = scene.nodes.length <;>
    cases node <;> simp [hend, Node.isInteractive, Node.isChoice, Waiting.isChoice]

/-- What is offered tells whether the cursor is settled. -/
theorem count_offers_iff (hin : player.playback.cursor.IsIn player.playback.novel)
    (hshown : player.isRevealing = false) :
    player.offers.count true = 1 ↔ player.playback.cursor.IsSettled player.playback.novel := by
  obtain ⟨scene, hscene, hindex⟩ := hin
  have hnode := List.getElem?_eq_getElem hindex
  rw [count_offers hscene hnode hshown]
  constructor
  · intro hone
    split at hone
    · next hsettled => exact ⟨scene, _, hscene, hnode, hsettled⟩
    · cases hone
  · rintro ⟨scene', node, hscene', hnode', hsettled⟩
    cases hscene.symm.trans hscene'
    cases hnode.symm.trans hnode'
    exact if_pos hsettled

/-! ## Sessions -/

section
variable [SaveStore σ]

/-- The playback of a session with certain saves is a state of play with those saves. -/
theorem LeadsTo.playback_reachable {options : PlayerOptions} {store : σ} {clock : Instant}
    (hstart : start novel options store clock = .ok first) (h : first.LeadsTo allowed player) :
    player.playback.Reachable novel allowed := by
  induction h with
  | refl =>
    obtain ⟨moved, hmoved, hplayback, -⟩ := start_cases hstart
    rw [hplayback]
    exact .start hmoved
  | @after player _ operation hload ih =>
    cases hcall : player.call? operation with
    | none =>
      rw [(lingers_of_no_call hcall).playback]
      exact .wait ih _
    | some call =>
      rw [playback_after_of_call hcall]
      cases call with
      | load save => exact .loadForeign ih (hload save hcall)
      | advance | choose | jump | restart => exact .call ih _ (by simp)
  | restock _ _ ih => exact ih

/-- A session comes from its start, whatever saves are loaded. -/
theorem Reachable.exists_leadsTo (h : player.Reachable novel) :
    ∃ options store clock first, Player.start novel options store clock = .ok first ∧
      first.LeadsTo AnySave player := by
  induction h with
  | start hstart => exact ⟨_, _, _, _, hstart, .refl⟩
  | after _ operation ih =>
    obtain ⟨options, store, clock, first, hstart, hleads⟩ := ih
    exact ⟨options, store, clock, first, hstart, .after hleads operation fun _ _ => trivial⟩
  | restock _ store ih =>
    obtain ⟨options, store', clock, first, hstart, hleads⟩ := ih
    exact ⟨options, store', clock, first, hstart, .restock hleads store⟩

/-- The playback of any session is a state of play. -/
theorem Reachable.playback_reachable (h : player.Reachable novel) :
    player.playback.Reachable novel AnySave := by
  obtain ⟨options, store, clock, first, hstart, hleads⟩ := h.exists_leadsTo
  exact hleads.playback_reachable hstart

/-- Once its text is shown, a session offers exactly one of going on, taking a branch, and nothing
any more just when its cursor is settled, whatever saves it loads. In a session in which no save
names a node where play would not settle the cursor always is, so one thing is offered, and play
waits for nothing only where nothing follows in the scene. -/
theorem offers_one {options : PlayerOptions} {store : σ} {clock : Instant}
    (hstart : start novel options store clock = .ok first) :
    (∀ player, first.LeadsTo AnySave player → player.isRevealing = false →
      (player.offers.count true = 1 ↔ player.playback.cursor.IsSettled novel)) ∧
    ∀ player, first.LeadsTo (Save.Settles novel) player →
      (player.isRevealing = false → player.offers.count true = 1) ∧
      (player.playback.waiting = .ended →
        ∃ scene, novel.scene? player.playback.cursor.sceneId = some scene ∧
          scene.nodes.drop (player.playback.cursor.nodeIndex + 1) = []) := by
  constructor
  · intro player h hshown
    obtain ⟨rfl, hin⟩ := novel.isIn_invariant.of_reachable (h.playback_reachable hstart)
    exact count_offers_iff hin hshown
  · intro player h
    obtain ⟨rfl, hsettled⟩ := novel.settled_invariant.of_reachable (h.playback_reachable hstart)
    obtain ⟨scene, node, hscene, hnode, hrest⟩ := hsettled
    constructor
    · intro hshown
      rw [count_offers hscene hnode hshown]
      exact if_pos hrest
    · exact Playback.drop_eq_nil_of_ended ⟨scene, node, hscene, hnode, hrest⟩

end

/-- The stroll without animation goes on from its question to a choice, and offers its branches. -/
theorem offers_one_stroll :
    ∃ first : Player MemoryStore,
      start .stroll { animate := false } MemoryStore.empty (.ofUnix 0) = .ok first ∧
      first.LeadsTo (Save.Settles .stroll) (first.after .click) ∧
      (first.after .click).isRevealing = false ∧ (first.after .click).choicesVisible = true ∧
      (first.after .click).offers.count true = 1 := by
  obtain ⟨first, hstart, hleads, hshown, hvisible, -⟩ := exists_strollChoice
  have hone := ((offers_one hstart).2 _ (hleads _)).1 hshown
  exact ⟨first, hstart, hleads _, hshown, hvisible, hone⟩

/-- A save made when the road of the stroll began with a line. -/
def roadSave : Save :=
  { sceneId := "road", nodeIndex := 0, cast := [], backgroundId := none, bgm := none
    savedAt := .ofUnix 0 }

/-- That save now names a node that waits for nobody, with two nodes behind it. It is loaded, and
the session offers nothing there: not to go on, no branch, and not the end. -/
theorem offers_nothing :
    ∃ (store : MemoryStore) (first : Player MemoryStore),
      start .stroll { animate := false } store (.ofUnix 0) = .ok first ∧
      first.LeadsTo AnySave (first.after .load) ∧ first.load.1 = .ok .loaded ∧
      (first.after .load).isRevealing = false ∧ (first.after .load).offers.count true = 0 ∧
      (first.after .load).playback.waiting = .ended ∧
      ∃ scene, Novel.stroll.scene? (first.after .load).playback.cursor.sceneId = some scene ∧
        (scene.nodes.drop ((first.after .load).playback.cursor.nodeIndex + 1)).length = 2 := by
  have htext : Save.ofText roadSave.toText = .ok roadSave :=
    Save.ofText_toText (by decide) (by decide)
  obtain ⟨store, -, hread⟩ := Slots.read_write htext .empty "stroll"
  obtain ⟨first, hstart, hplayback, hstore⟩ :=
    exists_start Playback.start_stroll { animate := false } store
  have hslot : Slots.read first.store first.playback.novel.id = .ok (some roadSave) := by
    rw [hstore, hplayback]
    exact hread
  have hcall : first.call? .load = some (.load roadSave) := by
    simp only [call?, hslot]
  have hleads : first.LeadsTo AnySave (first.after .load) := .after .refl .load fun _ _ => trivial
  have hshown : (first.after .load).isRevealing = false := hleads.isRevealing_eq_false hstart rfl
  have hloaded : first.load.1 = .ok .loaded := by
    obtain ⟨moved, hload⟩ : ∃ moved, first.playback.load roadSave = .ok moved := by
      rw [hplayback]
      exact ⟨_, rfl⟩
    simp only [load_eq, hslot, hload, takeIfOk]
  have hmoved : (first.after .load).playback = Playback.strollStart.1.loaded roadSave := by
    rw [playback_after_of_call hcall, hplayback]
    cbv
  have hended : (first.after .load).playback.waiting = .ended := by
    rw [hmoved]
    cbv
  obtain ⟨scene, hscene, hnode, hrest⟩ : ∃ scene, Novel.stroll.scene? "road" = some scene ∧
      scene.nodes[0]? = some (.character ⟨"r1", "ann", .enter, some .left, none⟩) ∧
      (scene.nodes.drop 1).length = 2 :=
    ⟨_, rfl, rfl, rfl⟩
  refine ⟨store, first, hstart, hleads, hloaded, hshown, ?_, hended, scene, ?_, ?_⟩
  · have hscene' : (first.after .load).playback.novel.scene?
        (first.after .load).playback.cursor.sceneId = some scene := by
      rw [hmoved]
      exact hscene
    have hnode' : scene.nodes[(first.after .load).playback.cursor.nodeIndex]?
        = some (.character ⟨"r1", "ann", .enter, some .left, none⟩) := by
      rw [hmoved]
      exact hnode
    rw [count_offers hscene' hnode' hshown, hmoved]
    cases hscene
    rfl
  · rw [hmoved]
    exact hscene
  · rw [hmoved]
    exact hrest

end Player
end VisualNovel
