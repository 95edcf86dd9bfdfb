import Mathlib.Data.Finset.Card
import Mathlib.Data.List.Chain
import VisualNovel.Proofs.Playback.Agreement

/-!
# The path of an entry

Entering a scene leads on to the target of its entry jump, if it has one. So the first scene decides
which scenes an entry comes to, one after the other (`Novel.entryAt?`), up to one that it has come
to before or that leads on nowhere. `Novel.EntryPath` is that path. It exists from every scene, as
there are finitely many (`Novel.exists_entryPath`), and there is only one (`Novel.EntryPath.unique`).
Where the path ends and how is all that an entry depends on (`Novel.EntryPath.ends_enterAfter`).
-/

namespace VisualNovel
namespace Novel

/-! ## Links between scenes -/

/-- The scene that entering a scene leads on to. -/
def entryTarget? (novel : Novel) (id : String) : Option String :=
  (novel.scene? id).bind (·.entryJump?)

/-- The scene that an entry comes to after so many entry jumps. -/
def entryAt? (novel : Novel) (id : String) : Nat → Option String
  | 0 => some id
  | k + 1 => (novel.entryAt? id k).bind novel.entryTarget?

section
variable {novel : Novel} {source target other : String}

theorem entryLink_iff : novel.EntryLink source target ↔ novel.entryTarget? source = some target :=
  Option.bind_eq_some_iff.symm

/-- A scene leads on to one scene only. -/
theorem EntryLink.unique (h : novel.EntryLink source target) (h' : novel.EntryLink source other) :
    target = other :=
  Option.some.inj ((entryLink_iff.1 h).symm.trans (entryLink_iff.1 h'))

theorem entryJump?_of_stays {scene : Scene} (hscene : novel.scene? source = some scene)
    (hstays : ∀ target, ¬novel.EntryLink source target) : scene.entryJump? = none :=
  Option.eq_none_iff_forall_ne_some.2 fun target hjump => hstays target ⟨scene, hscene, hjump⟩

/-- Scenes that lead on to one another are those that an entry of the first comes to. -/
theorem entryAt?_of_isChain {ids : List String} {id : String} (hfirst : ids.head? = some id)
    (hlinks : ids.IsChain novel.EntryLink) {k : Nat} (hk : k < ids.length) :
    novel.entryAt? id k = ids[k]? := by
  induction k with
  | zero => rw [entryAt?, ← hfirst, List.head?_eq_getElem?]
  | succ k ih =>
    have hlink := entryLink_iff.1 (hlinks.getElem k hk)
    rw [entryAt?, ih (Nat.lt_of_succ_lt hk), List.getElem?_eq_getElem (Nat.lt_of_succ_lt hk),
      List.getElem?_eq_getElem hk, Option.bind_some, hlink]

end

/-! ## Paths -/

/-- The path of an entry that has visited scenes and now comes to another one: the scenes that are
passed then, those visited included, and the last one, at which the path ends since it has been
passed before or does not lead on. -/
inductive EntryPath (novel : Novel) : List String → String → List String → String → Prop
  | returns {visited : List String} {id : String} (hold : id ∈ visited) :
      EntryPath novel visited id visited id
  | stays {visited : List String} {id : String} (hnew : id ∉ visited)
      (hstays : ∀ target, ¬novel.EntryLink id target) : EntryPath novel visited id visited id
  | leads {visited passed : List String} {id target last : String} (hnew : id ∉ visited)
      (hlink : novel.EntryLink id target)
      (hpath : EntryPath novel (visited ++ [id]) target passed last) :
      EntryPath novel visited id passed last

section
variable {novel : Novel} {visited passed passed' : List String} {id target last last' : String}

/-- From every scene there is a path. -/
theorem exists_entryPath (novel : Novel) (visited : List String) (id : String) :
    ∃ passed last, novel.EntryPath visited id passed last := by
  induction hlen : (novel.unvisited visited).length using Nat.strongRecOn
    generalizing visited id with
  | ind len ih =>
    subst hlen
    by_cases hold : id ∈ visited
    · exact ⟨visited, id, .returns hold⟩
    by_cases hleads : ∃ target, novel.EntryLink id target
    · obtain ⟨target, hlink⟩ := hleads
      have ⟨scene, hscene, _⟩ := hlink
      obtain ⟨passed, last, hpath⟩ := ih _ (length_unvisited_lt hscene hold) _ target rfl
      exact ⟨passed, last, .leads hold hlink hpath⟩
    · exact ⟨visited, id, .stays hold (not_exists.1 hleads)⟩

namespace EntryPath

/-- There is only one path from a scene. -/
theorem unique (h : novel.EntryPath visited id passed last)
    (h' : novel.EntryPath visited id passed' last') : passed = passed' ∧ last = last' := by
  induction h with
  | returns hold =>
    cases h' with
    | returns => exact ⟨rfl, rfl⟩
    | stays hnew | leads hnew => exact absurd hold hnew
  | stays hnew hstays =>
    cases h' with
    | returns hold => exact absurd hold hnew
    | stays => exact ⟨rfl, rfl⟩
    | leads _ hlink => exact absurd hlink (hstays _)
  | leads hnew hlink _ ih =>
    cases h' with
    | returns hold => exact absurd hold hnew
    | stays _ hstays => exact absurd hlink (hstays _)
    | leads _ hlink' hpath' =>
      cases hlink.unique hlink'
      exact ih hpath'

/-- A path begins with the scenes that have been visited and the one that is come to. -/
theorem isPrefix (h : novel.EntryPath visited id passed last) :
    visited ++ [id] <+: passed ++ [last] := by
  induction h with
  | returns | stays => exact List.prefix_rfl
  | leads _ _ _ ih => exact (List.prefix_append _ _).trans ih

/-- A path follows the links. -/
theorem isChain (h : novel.EntryPath visited id passed last)
    (hlinks : (visited ++ [id]).IsChain novel.EntryLink) :
    (passed ++ [last]).IsChain novel.EntryLink := by
  induction h with
  | returns | stays => exact hlinks
  | leads hnew hlink _ ih =>
    refine ih (hlinks.append (List.isChain_singleton _) ?_)
    simpa using hlink

/-- A path passes no scene twice. -/
theorem nodup (h : novel.EntryPath visited id passed last) (hvisited : visited.Nodup) :
    passed.Nodup := by
  induction h with
  | returns | stays => exact hvisited
  | leads hnew _ _ ih => exact ih (by simpa using hvisited.concat hnew)

/-- The scenes that a path passes have nodes, as they lead on. -/
theorem exists_nodes (h : novel.EntryPath visited id passed last)
    (hvisited : ∀ source ∈ visited, ∃ scene, novel.scene? source = some scene ∧ scene.nodes ≠ []) :
    ∀ source ∈ passed, ∃ scene, novel.scene? source = some scene ∧ scene.nodes ≠ [] := by
  induction h with
  | returns | stays => exact hvisited
  | leads _ hlink _ ih =>
    obtain ⟨scene, hscene, hjump⟩ := hlink
    refine ih (List.forall_mem_append.2 ⟨hvisited, List.forall_mem_singleton.2 ?_⟩)
    exact ⟨scene, hscene, Scene.ne_nil_of_entryJump? hjump⟩

end EntryPath
end

/-! ## Where an entry ends -/

end Novel

/-- The node at which the entry of a scene halts: the first that waits for the player, or else the
last one. -/
def Scene.haltIndex (scene : Scene) : Nat :=
  (scene.nodes.findIdx? (·.isInteractive)).getD scene.lastIndex

namespace Novel

/-- How an entry ends that has passed scenes and comes to the last one. -/
inductive EntryEnds (novel : Novel) (passed : List String) (last : String) :
    Except PlaybackError Landing → Prop
  /-- The last scene is one of those passed. -/
  | returns (honce : passed.count last = 1) :
      EntryEnds novel passed last (.error (.cyclicEntry (passed ++ [last])))
  | missing (hnew : last ∉ passed) (hscene : novel.scene? last = none) :
      EntryEnds novel passed last (.error (.sceneNotFound last))
  | empty {scene : Scene} (hnew : last ∉ passed) (hscene : novel.scene? last = some scene)
      (hempty : scene.nodes = []) : EntryEnds novel passed last (.error (.emptyScene last))
  | lands {scene : Scene} {landing : Landing} (hnew : last ∉ passed)
      (hscene : novel.scene? last = some scene) (hne : scene.nodes ≠ [])
      (hstays : scene.entryJump? = none) (hcursor : landing.cursor = ⟨last, scene.haltIndex⟩) :
      EntryEnds novel passed last (.ok landing)

section
variable {novel : Novel} {scene : Scene} {visited passed : List String} {id last : String}
  {bgm : Option String} {cues : Cues} {nodes : List Node} {shown : Performance} {i : Nat}

/-- A walk that meets no jump halts at the first node that waits for the player. -/
theorem walk_ending_of_stays
    (hstays : (nodes.takeWhile (!·.isInteractive)).findSome? (·.jumpTarget?) = none) :
    (novel.walk i shown cues nodes).ending
      = ((nodes.findIdx? (·.isInteractive)).map fun k => .halted (i + k)).getD .ranOut := by
  induction nodes generalizing i shown cues with
  | nil => rfl
  | cons node nodes ih =>
    rcases node.kinds with ⟨jump, rfl⟩ | hint | hcue
    · simp [Node.isInteractive, Node.jumpTarget?] at hstays
    · simp [walk_interactive hint, List.findIdx?_cons, hint]
    · have hskip : node.isInteractive = false ∧ node.jumpTarget? = none := by
        cases node <;> first | exact ⟨rfl, rfl⟩ | cases hcue
      simp only [List.takeWhile_cons, hskip, Bool.not_false, if_true, List.findSome?_cons] at hstays
      rw [walk_cue hcue, ih hstays, List.findIdx?_cons, hskip.1]
      cases nodes.findIdx? (·.isInteractive) with
      | none => rfl
      | some k => simp [Nat.add_comm, Nat.add_left_comm]

/-- A scene without an entry jump is where its entry halts. -/
theorem exists_landing_of_stays (hnew : id ∉ visited) (hscene : novel.scene? id = some scene)
    (hne : scene.nodes ≠ []) (hstays : scene.entryJump? = none) :
    ∃ landing, novel.enterAfter visited id bgm cues = .ok landing ∧
      landing.cursor = ⟨id, scene.haltIndex⟩ := by
  have hid : scene.id = id := id_of_scene? hscene
  have hend : (novel.walk 0 { bgm } cues scene.nodes).ending = _ := walk_ending_of_stays hstays
  rw [enterAfter_of_scene hnew hscene hne]
  dsimp only
  rw [hend, Scene.haltIndex]
  cases scene.nodes.findIdx? (·.isInteractive) with
  | none => exact ⟨_, rfl, by rw [hid]; rfl⟩
  | some k => exact ⟨_, rfl, by rw [hid, Nat.zero_add]; rfl⟩

/-- An entry ends where its path does. -/
theorem EntryPath.ends_enterAfter (h : novel.EntryPath visited id passed last)
    (hvisited : visited.Nodup) :
    novel.EntryEnds passed last (novel.enterAfter visited id bgm cues) := by
  induction h generalizing bgm cues with
  | returns hold =>
    rw [enterAfter_of_mem hold]
    exact .returns (List.count_eq_one_of_mem hvisited hold)
  | @stays visited id hnew hstays =>
    cases hscene : novel.scene? id with
    | none =>
      rw [enterAfter_of_missing hnew hscene]
      exact .missing hnew hscene
    | some scene =>
      by_cases hne : scene.nodes = []
      · rw [enterAfter_of_empty hnew hscene hne]
        exact .empty hnew hscene hne
      · have hnone : scene.entryJump? = none := entryJump?_of_stays hscene hstays
        obtain ⟨landing, henter, hcursor⟩ := exists_landing_of_stays hnew hscene hne hnone
        rw [henter]
        exact .lands hnew hscene hne hnone hcursor
  | leads hnew hlink _ ih =>
    obtain ⟨scene, hscene, hjump⟩ := hlink
    rw [enterAfter_of_scene hnew hscene (Scene.ne_nil_of_entryJump? hjump)]
    simp only [walk_left_iff_entryJump?.2 hjump]
    exact ih (by simpa using hvisited.concat hnew)

end

/-! ## How many scenes are entered -/

/-- Enters a scene like `enterAfter`, but at most so many scenes on the way; none when they are not
enough. -/
def enterWithin (novel : Novel) (limit : Nat) (visited : List String) (sceneId : String)
    (bgm : Option String) (cues : Cues) : Option (Except PlaybackError Landing) :=
  if sceneId ∈ visited then some (.error (.cyclicEntry (visited ++ [sceneId])))
  else
    match novel.scene? sceneId with
    | none => some (.error (.sceneNotFound sceneId))
    | some scene =>
      if scene.nodes.isEmpty then some (.error (.emptyScene sceneId))
      else
        match limit with
        | 0 => none
        | limit + 1 =>
          let walk := novel.walk 0 { bgm } cues scene.nodes
          match walk.ending with
          | .halted nodeIndex => some (.ok ⟨⟨scene.id, nodeIndex⟩, walk.shown, walk.cues⟩)
          | .ranOut => some (.ok ⟨⟨scene.id, scene.lastIndex⟩, walk.shown, walk.cues⟩)
          | .left target =>
            novel.enterWithin limit (visited ++ [sceneId]) target walk.shown.bgm walk.cues

/-- The ids of the scenes of a novel that have not been visited. -/
def freshIds (novel : Novel) (visited : List String) : Finset String :=
  novel.sceneIds.toFinset \ visited.toFinset

/-- A scene that is visited is fresh no longer. -/
theorem card_freshIds_lt {novel : Novel} {visited : List String} {id : String} {scene : Scene}
    (hscene : novel.scene? id = some scene) (hnew : id ∉ visited) :
    (novel.freshIds (visited ++ [id])).card < (novel.freshIds visited).card := by
  refine Finset.card_lt_card (Finset.ssubset_iff_of_subset ?_ |>.2 ⟨id, ?_, ?_⟩)
  · exact Finset.sdiff_subset_sdiff le_rfl (by simp [List.toFinset_append])
  · simp [freshIds, mem_sceneIds_of_scene? hscene, hnew]
  · simp [freshIds]

/-- An entry enters no more scenes than there are fresh ones. -/
theorem enterWithin_eq {novel : Novel} {limit : Nat} {visited : List String} {id : String}
    {bgm : Option String} {cues : Cues} (hlimit : (novel.freshIds visited).card ≤ limit) :
    novel.enterWithin limit visited id bgm cues = some (novel.enterAfter visited id bgm cues) := by
  induction hcard : (novel.freshIds visited).card using Nat.strongRecOn
    generalizing limit visited id bgm cues with
  | ind card ih =>
    subst hcard
    by_cases hold : id ∈ visited
    · rw [enterAfter_of_mem hold, enterWithin, if_pos hold]
    cases hscene : novel.scene? id with
    | none =>
      rw [enterAfter_of_missing hold hscene, enterWithin, if_neg hold, hscene]
    | some scene =>
    by_cases hne : scene.nodes = []
    · rw [enterAfter_of_empty hold hscene hne, enterWithin, if_neg hold, hscene]
      exact if_pos (List.isEmpty_iff.2 hne)
    -- the scene is fresh, so that one more may be entered
    have hlt : (novel.freshIds (visited ++ [id])).card < (novel.freshIds visited).card :=
      card_freshIds_lt hscene hold
    obtain ⟨limit, rfl⟩ := Nat.exists_eq_add_of_lt (hlt.trans_le hlimit)
    rw [enterAfter_of_scene hold hscene hne, enterWithin, if_neg hold, hscene]
    simp only [List.isEmpty_iff, if_neg hne]
    cases (novel.walk 0 { bgm } cues scene.nodes).ending with
    | halted i => rfl
    | ranOut => rfl
    | left target => exact ih _ hlt (Nat.le_add_right _ _) rfl

/-- An entry is over when it has entered as many scenes as the novel has ids of scenes, or sooner.
It follows the entry jumps through scenes that are all different and have nodes. If it comes to one
of them again, it is refused with the scenes on its path, that one at the end. Otherwise it comes to
a scene that does not lead on, where it fails if there is no such scene or the scene is empty, and
halts at the first node that waits for the player, or else at the last one, if it has nodes. -/
theorem entry_ends (novel : Novel) (id : String) (bgm : Option String) (cues : Cues) :
    novel.enterWithin novel.sceneIds.toFinset.card [] id bgm cues
      = some (novel.enter id bgm cues) ∧
    ∃ passed last,
      (∀ k ≤ passed.length, novel.entryAt? id k = (passed ++ [last])[k]?) ∧
      passed.Nodup ∧
      (∀ source ∈ passed, ∃ scene, novel.scene? source = some scene ∧ scene.nodes ≠ []) ∧
      (passed ++ [last]).IsChain novel.EntryLink ∧
      novel.EntryEnds passed last (novel.enter id bgm cues) := by
  refine ⟨enterWithin_eq (Finset.card_le_card Finset.sdiff_subset), ?_⟩
  obtain ⟨passed, last, hpath⟩ := novel.exists_entryPath [] id
  have hlinks : (passed ++ [last]).IsChain novel.EntryLink :=
    hpath.isChain (List.isChain_singleton id)
  have hfirst : (passed ++ [last]).head? = some id := by
    obtain ⟨rest, hrest⟩ := hpath.isPrefix
    rw [← hrest]
    rfl
  refine ⟨passed, last, fun k hk => ?_, hpath.nodup List.nodup_nil, hpath.exists_nodes nofun, hlinks,
    hpath.ends_enterAfter List.nodup_nil⟩
  exact entryAt?_of_isChain hfirst hlinks (by simpa using Nat.lt_succ_of_le hk)

/-- Through the gate one comes to the north side and from there round and round. The well is a way
into itself, the lane leads to a town that is not there, and only in the yard one can stay. -/
def maze : Novel :=
  { id := "maze", title := "Maze", author := "", description := "", coverImageUrl := none
    characters := [], backgrounds := [], audio := [⟨"song", "song", .bgm, ""⟩]
    chapters := [⟨"one", "One", [⟨"gate", "Gate", [.audio ⟨"g1", "song", .play⟩, .jump ⟨"g2", "north"⟩]⟩,
      ⟨"north", "North", [.jump ⟨"n1", "south"⟩]⟩, ⟨"south", "South", [.jump ⟨"s1", "north"⟩]⟩,
      ⟨"well", "Well", [.jump ⟨"w1", "well"⟩]⟩, ⟨"lane", "Lane", [.jump ⟨"l1", "town"⟩]⟩,
      ⟨"yard", "Yard", [.audio ⟨"y1", "song", .stop⟩, .narration ⟨"y2", "Sun."⟩, .jump ⟨"y3", "gate"⟩]⟩]⟩]
    startSceneId := "yard", createdAt := none, updatedAt := none }

/-- Entering the maze at its gate is refused after three scenes, with the north side twice. -/
theorem entry_ends_maze :
    Novel.maze.enter "gate" none .none
      = .error (.cyclicEntry ["gate", "north", "south", "north"]) ∧
    ∃ passed last, passed.Nodup ∧ (passed ++ [last]).IsChain Novel.maze.EntryLink ∧
      Novel.maze.EntryEnds passed last
        (.error (.cyclicEntry ["gate", "north", "south", "north"])) := by
  have henter : Novel.maze.enter "gate" none .none
      = .error (.cyclicEntry ["gate", "north", "south", "north"]) := by
    cbv
  obtain ⟨-, passed, last, -, hnodup, -, hlinks, hends⟩ := entry_ends .maze "gate" none .none
  rw [henter] at hends
  exact ⟨henter, passed, last, hnodup, hlinks, hends⟩

end Novel
end VisualNovel
