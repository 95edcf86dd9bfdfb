import VisualNovel.Session
import VisualNovel.Proofs.Playback.Restart
import VisualNovel.Proofs.Player.Offers
import VisualNovel.Proofs.Prompt.Grammar

/-!
# The menu of a choice

While the branches of a choice are shown, each has a number in the frame, and a line with that
number takes a branch. Between the number and the branch stands an id: the session looks up the id
of the branch with the number, and the playback takes the first branch with that id. To take it is
to jump to its scene and to note the choice before (`Playback.choose_eq_jump`).

So `Player.menu_means` says of every number what it does, and that it takes the branch that is shown
with it unless an earlier one has the same id. `Player.menu_twins` shows a choice where it takes
another one.
-/

namespace VisualNovel

/-! ## The first branch with an id -/

namespace Choice

variable {choice : Choice} {branch : Branch} {index : Nat}

/-- For the id of a branch there is a first branch that has it. -/
theorem exists_branch? (hbranch : choice.branches[index]? = some branch) :
    ∃ taken, choice.branch? branch.id = some taken := by
  refine Option.isSome_iff_exists.1 (List.find?_isSome.2 ⟨branch, ?_, ?_⟩)
  · exact List.mem_of_getElem? hbranch
  · exact beq_self_eq_true branch.id

/-- A branch is the first with its id when no earlier one has it. -/
theorem branch?_of_first (hbranch : choice.branches[index]? = some branch)
    (hfirst : ∀ earlier ∈ choice.branches.take index, earlier.id ≠ branch.id) :
    choice.branch? branch.id = some branch := by
  obtain ⟨hindex, hget⟩ := List.getElem?_eq_some_iff.1 hbranch
  refine List.find?_eq_some_iff_getElem.2 ⟨beq_self_eq_true _, index, hindex, hget, ?_⟩
  intro j hj
  have hmem : choice.branches[j] ∈ choice.branches.take index :=
    List.mem_take_iff_getElem.2 ⟨j, lt_min hj (hj.trans hindex), rfl⟩
  simpa using hfirst _ hmem

end Choice

/-! ## Choices are jumps -/

namespace Playback

variable {playback : Playback} {choice : Choice} {branch : Branch} {branchId : String}

/-- What the history notes where a scene was entered: the scene, and the line that is shown there. -/
def entryEvents (playback : Playback) : List HistoryEvent :=
  .sceneEntered playback.cursor.sceneId playback.clock.unix
    :: (playback.currentNode?.bind (lineOf playback.clock.unix)).toList

/-- An entry is noted by two events at most. -/
theorem length_entryEvents_le (playback : Playback) : playback.entryEvents.length ≤ 2 := by
  simp only [entryEvents, List.length_cons]
  cases playback.currentNode?.bind (lineOf playback.clock.unix) <;> simp

/-- To take a branch is to jump to its scene, but that the choice is noted before. -/
theorem choose_eq_jump (hnode : playback.currentNode? = some (.choice choice))
    (hbranch : choice.branch? branchId = some branch) :
    playback.choose branchId = (playback.jump branch.targetSceneId).map fun moved =>
      ({ moved.1 with
          history := playback.history.pushAll
            (.choiceMade choice.prompt branch.text playback.clock.unix :: moved.1.entryEvents) },
        moved.2) := by
  simp only [choose_eq, hnode, hbranch, jump_eq]
  cases playback.novel.enter branch.targetSceneId playback.shown.bgm .none <;> rfl

end Playback

namespace Player

variable {σ : Type} {novel : Novel} {player : Player σ} {choice : Choice} {branch taken : Branch}
  {index : Nat}

/-- The history of a session keeps a thousand events. -/
theorem Reachable.limit_eq [SaveStore σ] (h : player.Reachable novel) :
    player.playback.history.limit = 1000 := by
  obtain ⟨log, hlog⟩ := h.playback_reachable.exists_keeps
  exact hlog.limit

/-! ## The menu in the frame -/

/-- At a choice one of its branches is waited for. -/
theorem waiting_of_choice (hnode : player.playback.currentNode? = some (.choice choice)) :
    player.playback.waiting = .choice choice.branches.length := by
  simp only [Playback.waiting, hnode]

/-- While branches are shown, they are the end of the frame. -/
theorem lines_of_choicesVisible (hvisible : player.choicesVisible = true)
    (hnode : player.playback.currentNode? = some (.choice choice)) :
    ∃ above, Frame.lines player = above ++ Frame.branches choice := by
  have hshown : player.isRevealing = false := by
    simp only [choicesVisible, Bool.and_eq_true, Bool.not_eq_true'] at hvisible
    exact hvisible.1
  have hgoes : player.canAdvance = false := by
    simp [canAdvance, waiting_of_choice hnode]
  have hends : player.playback.isFinished = false := by
    have hat : player.playback.atChoice = true := Playback.atChoice_iff.2 ⟨choice, hnode⟩
    simp only [Playback.isFinished]
    split
    · next hscene => simp [Playback.currentNode?, hscene] at hnode
    · simp [hat]
  have hmenu : ∃ asked, Frame.node player = asked ++ Frame.branches choice := by
    have hnode' : player.playback.shownNode? = some (.choice choice) := by
      rw [Playback.shownNode?, hnode]
      rfl
    simp only [Frame.node, hnode', hvisible, if_true]
    exact ⟨_, rfl⟩
  have hnothing : Frame.affordance player = [] := by
    simp only [Frame.affordance, hshown, hgoes, hends, Bool.false_eq_true, if_false]
  obtain ⟨asked, hasked⟩ := hmenu
  simp only [Frame.lines, hasked, hnothing, List.append_nil, ← List.append_assoc]
  exact ⟨_, rfl⟩

/-- Each branch stands in the frame with its number. -/
theorem getElem?_branches (hbranch : choice.branches[index]? = some branch) :
    (Frame.branches choice)[index]? = some s!"  {index + 1}. {branch.text}" := by
  simp only [Frame.branches, List.getElem?_mapIdx, hbranch, Option.map_some]

/-! ## Taking a branch -/

/-- The session with another history. -/
def withHistory (player : Player σ) (history : History) : Player σ :=
  { player with playback := { player.playback with history } }

/-- What the history notes has no part in what a step shows. -/
theorem take_history (player : Player σ) (moved : Playback × Step) (history : History) :
    player.take ({ moved.1 with history }, moved.2) = (player.take moved).withHistory history := by
  simp only [take]
  split <;> rfl

/-- The session after a jump, before which the history has noted a choice. -/
def chosen (player : Player σ) (choice : Choice) (taken : Branch) (jumped : Player σ) : Player σ :=
  jumped.withHistory (player.playback.history.pushAll
    (.choiceMade choice.prompt taken.text player.playback.clock.unix
      :: jumped.playback.entryEvents))

/-- A branch is taken by a jump to its scene, and the choice is noted; when its scene cannot be
entered, nothing happens. -/
theorem choose_eq_chosen (hvisible : player.choicesVisible = true)
    (hnode : player.playback.currentNode? = some (.choice choice))
    (hbranch : choice.branches[index]? = some branch)
    (htaken : choice.branch? branch.id = some taken) :
    player.choose index = match player.jump taken.targetSceneId with
      | (.ok (), jumped) => (.ok (), player.chosen choice taken jumped)
      | (.error e, _) => (.error e, player) := by
  simp only [choose_eq, hnode, hvisible, hbranch, Bool.not_true, Bool.false_eq_true, if_false,
    Playback.choose_eq_jump hnode htaken, jump_eq, takeIfOk]
  cases player.playback.jump taken.targetSceneId with
  | error e => rfl
  | ok moved => simp only [Except.map, take_history, chosen, take_playback]

/-- What is noted when a branch is taken follows on what was in the history, of which the oldest
events may be dropped. -/
theorem events_chosen (hlimit : player.playback.history.limit = 1000) (choice : Choice)
    (taken : Branch) (jumped : Player σ) :
    ∃ kept, kept <:+ player.playback.history.events ∧
      (player.chosen choice taken jumped).playback.history.events
        = kept ++ .choiceMade choice.prompt taken.text player.playback.clock.unix
          :: jumped.playback.entryEvents := by
  refine History.events_pushAll_of_le (List.cons_ne_nil _ _) ?_
  have hlength := jumped.playback.length_entryEvents_le
  rw [List.length_cons, hlimit]
  omega

end Player

/-! ## A fork -/

/-- A choice whose branches have different ids. -/
def Choice.ways : Choice :=
  ⟨"f1", some "Where?", [⟨"left", "Left", "left", none⟩, ⟨"right", "Right", "right", none⟩]⟩

/-- A choice whose branches have the same id. -/
def Choice.twins : Choice :=
  ⟨"f1", some "Where?", [⟨"way", "Left", "left", none⟩, ⟨"way", "Right", "right", none⟩]⟩

/-- A novel that begins at a choice between two scenes. -/
def Novel.forkAt (menu : Choice) : Novel :=
  { id := "fork", title := "Fork", author := "", description := "", coverImageUrl := none
    characters := [], backgrounds := [], audio := []
    chapters := [⟨"one", "One", [⟨"fork", "Fork", [.choice menu]⟩,
      ⟨"left", "Left", [.narration ⟨"l1", "To the left."⟩]⟩,
      ⟨"right", "Right", [.narration ⟨"r1", "To the right."⟩]⟩]⟩]
    startSceneId := "fork", createdAt := none, updatedAt := none }

/-- The fork whose ways have different ids. -/
def Novel.crossing : Novel :=
  .forkAt .ways

/-- The fork whose ways have the same id. -/
def Novel.fork : Novel :=
  .forkAt .twins

namespace Playback

/-- The fork at its start. -/
def forkStart (menu : Choice) : Playback × Step :=
  (blank (.forkAt menu) (.ofUnix 0)).land ⟨⟨"fork", 0⟩, {}, .none⟩ true

/-- The fork can be started, whatever choice it begins at. -/
theorem start_forkAt (menu : Choice) :
    start (.forkAt menu) (.ofUnix 0) = .ok (forkStart menu) := by
  cbv

/-- Beyond the fork, at the start of a scene. -/
def forkBeyond (menu : Choice) (sceneId : String) : Playback × Step :=
  (forkStart menu).1.land ⟨⟨sceneId, 0⟩, {}, .none⟩ true

end Playback

namespace Player

/-- A session shows the ways of the fork from the start when text is not animated. -/
theorem exists_forkStart (menu : Choice) :
    ∃ player : Player MemoryStore, player.Reachable (.forkAt menu) ∧
      player.choicesVisible = true ∧ player.playback.currentNode? = some (.choice menu) ∧
      player.playback = (Playback.forkStart menu).1 := by
  obtain ⟨player, hstart, hplayback, -⟩ :=
    exists_start (Playback.start_forkAt menu) { animate := false } MemoryStore.empty
  have hrefl : player.LeadsTo AnySave player := .refl
  have hnode : player.playback.currentNode? = some (.choice menu) := by
    rw [hplayback]
    cbv
  have hvisible : player.choicesVisible = true := by
    rw [choicesVisible, hrefl.isRevealing_eq_false hstart rfl, waiting_of_choice hnode]
    rfl
  exact ⟨player, .start hstart, hvisible, hnode, hplayback⟩

/-- What the playback lands in from the fork, a session jumps to. -/
theorem jump_of_forkStart {player : Player MemoryStore} {menu : Choice} (sceneId : String)
    (hplayback : player.playback = (Playback.forkStart menu).1)
    (hjump : (Playback.forkStart menu).1.jump sceneId = .ok (Playback.forkBeyond menu sceneId)) :
    player.jump sceneId = (.ok (), player.take (Playback.forkBeyond menu sceneId)) := by
  rw [jump_eq, hplayback, hjump]
  rfl

end Player

/-! ## What a number means -/

namespace Player

variable {σ : Type} {novel : Novel} {player : Player σ} {choice : Choice} {branch : Branch}
  {index : Nat}

section
variable [SaveStore σ]

open Text (line)

/-- A number is answered with the frame after its branch was taken. -/
theorem answer_of_choose {next : Player σ} (hindex : index < Prompt.greatestNumber)
    (hchoose : player.choose index = (.ok (), next)) :
    Session.answer player (toString (index + 1)) = (⟨line (Frame.render next), false⟩, next) := by
  simp only [Session.answer, Prompt.parse_toString hindex, Session.handle, hchoose, Session.report,
    Except.map, String.empty_append]

/-- When no branch was taken, the number is answered with the reason. -/
theorem answer_of_choose_error {e : PlayerError} (hindex : index < Prompt.greatestNumber)
    (hchoose : player.choose index = (.error e, player)) :
    Session.answer player (toString (index + 1))
      = (⟨line s!"! {e.message}" ++ line (Frame.render player), false⟩, player) := by
  simp only [Session.answer, Prompt.parse_toString hindex, Session.handle, hchoose, Session.report,
    Except.map]

/-- While the branches of a choice are shown, they end the frame, each with its number, counted from
one. A line with the number of a branch takes the first branch with the same id, which is that
branch itself unless an earlier one has its id. When the scene of the branch that is taken cannot be
entered, the session says why and stays. When a jump to it would succeed, the session is afterwards
as the jump would leave it, and the history has noted the choice just before the scene. -/
theorem menu_means (h : player.Reachable novel) (hvisible : player.choicesVisible = true)
    (hnode : player.playback.currentNode? = some (.choice choice))
    (hbranch : choice.branches[index]? = some branch) (hindex : index < Prompt.greatestNumber) :
    (∃ above, Frame.lines player = above ++ Frame.branches choice) ∧
    (Frame.branches choice)[index]? = some s!"  {index + 1}. {branch.text}" ∧
    ∃ taken, choice.branch? branch.id = some taken ∧
      ((∀ earlier ∈ choice.branches.take index, earlier.id ≠ branch.id) → taken = branch) ∧
      (∀ e, (player.jump taken.targetSceneId).1 = .error e →
        player.choose index = (.error e, player) ∧
        Session.answer player (toString (index + 1))
          = (⟨line s!"! {e.message}" ++ line (Frame.render player), false⟩, player)) ∧
      ∀ jumped, player.jump taken.targetSceneId = (.ok (), jumped) →
        ∃ history kept, kept <:+ player.playback.history.events ∧
          history.events = kept ++ .choiceMade choice.prompt taken.text player.playback.clock.unix
            :: jumped.playback.entryEvents ∧
          player.choose index = (.ok (), jumped.withHistory history) ∧
          Session.answer player (toString (index + 1))
            = (⟨line (Frame.render (jumped.withHistory history)), false⟩,
              jumped.withHistory history) := by
  obtain ⟨taken, htaken⟩ := Choice.exists_branch? hbranch
  refine ⟨lines_of_choicesVisible hvisible hnode, getElem?_branches hbranch, taken, htaken, ?_, ?_,
    ?_⟩
  · intro hfirst
    exact Option.some.inj (htaken.symm.trans (Choice.branch?_of_first hbranch hfirst))
  · intro e hfails
    have hjump : player.jump taken.targetSceneId = (.error e, _) := Prod.ext hfails rfl
    have hchoose : player.choose index = (.error e, player) := by
      rw [choose_eq_chosen hvisible hnode hbranch htaken, hjump]
    exact ⟨hchoose, answer_of_choose_error hindex hchoose⟩
  · intro jumped hjump
    have hchoose : player.choose index = (.ok (), player.chosen choice taken jumped) := by
      rw [choose_eq_chosen hvisible hnode hbranch htaken, hjump]
    obtain ⟨kept, hkept, hevents⟩ := events_chosen h.limit_eq choice taken jumped
    exact ⟨_, kept, hkept, hevents, hchoose, answer_of_choose hindex hchoose⟩

end

/-- At the crossing the number 2 leads to the right, and the history says so. -/
theorem menu_means_crossing :
    ∃ player : Player MemoryStore, player.Reachable .crossing ∧ player.choicesVisible = true ∧
      player.playback.currentNode? = some (.choice .ways) ∧
      (∃ above, Frame.lines player = above ++ ["  1. Left", "  2. Right"]) ∧
      ∃ next, Session.answer player "2" = (⟨Text.line (Frame.render next), false⟩, next) ∧
        next.playback.cursor = ⟨"right", 0⟩ ∧
        ∃ kept, next.playback.history.events = kept ++
          [.choiceMade (some "Where?") "Right" 0, .sceneEntered "right" 0,
            .line none "To the right." 0] := by
  obtain ⟨player, hreach, hvisible, hnode, hplayback⟩ := exists_forkStart .ways
  have hclock : player.playback.clock.unix = 0 := by
    rw [hplayback]
    rfl
  have hbranch : Choice.ways.branches[1]? = some ⟨"right", "Right", "right", none⟩ := rfl
  obtain ⟨hframe, -, taken, -, hfirst, -, hjumps⟩ :=
    menu_means hreach hvisible hnode hbranch (by decide)
  cases hfirst (by decide)
  have hjump := jump_of_forkStart "right" hplayback (by cbv)
  obtain ⟨history, kept, -, hevents, -, hanswer⟩ := hjumps _ hjump
  have htwo : toString (1 + 1) = "2" := by
    cbv
  have hentry : (player.take (Playback.forkBeyond .ways "right")).playback.entryEvents
      = [.sceneEntered "right" 0, .line none "To the right." 0] := by
    rw [take_playback]
    cbv
  have hmenu : Frame.branches .ways = ["  1. Left", "  2. Right"] := by
    cbv
  rw [hmenu] at hframe
  rw [htwo] at hanswer
  rw [hclock, hentry] at hevents
  refine ⟨player, hreach, hvisible, hnode, hframe, _, hanswer, ?_, kept, hevents⟩
  rw [withHistory, take_playback]
  rfl

/-- At the fork the frame shows the way to the right with the number 2, and one can go there. But
the number 2 leads to the left, and the history says so. -/
theorem menu_twins :
    ∃ player : Player MemoryStore, player.Reachable .fork ∧ player.choicesVisible = true ∧
      player.playback.currentNode? = some (.choice .twins) ∧
      (∃ above, Frame.lines player = above ++ ["  1. Left", "  2. Right"]) ∧
      (∃ jumped, player.jump "right" = (.ok (), jumped) ∧ jumped.playback.cursor = ⟨"right", 0⟩) ∧
      ∃ next, Session.answer player "2" = (⟨Text.line (Frame.render next), false⟩, next) ∧
        next.playback.cursor = ⟨"left", 0⟩ ∧
        next.playback.history.events = [.sceneEntered "fork" 0,
          .choiceMade (some "Where?") "Left" 0, .sceneEntered "left" 0,
          .line none "To the left." 0] := by
  obtain ⟨player, hreach, hvisible, hnode, hplayback⟩ := exists_forkStart .twins
  have hleft := jump_of_forkStart "left" hplayback (by cbv)
  have hright := jump_of_forkStart "right" hplayback (by cbv)
  have hbranch : Choice.twins.branches[1]? = some ⟨"way", "Right", "right", none⟩ := rfl
  have htaken : Choice.twins.branch? "way" = some ⟨"way", "Left", "left", none⟩ := by
    cbv
  have hnext : player.chosen .twins ⟨"way", "Left", "left", none⟩
      (player.take (Playback.forkBeyond .twins "left"))
      = (player.take (Playback.forkBeyond .twins "left")).withHistory
        ((Playback.forkStart .twins).1.history.pushAll [.choiceMade (some "Where?") "Left" 0,
          .sceneEntered "left" 0, .line none "To the left." 0]) := by
    rw [chosen, take_playback, hplayback]
    rfl
  have hchoose := choose_eq_chosen hvisible hnode hbranch htaken
  simp only [hleft, hnext] at hchoose
  have hanswer := answer_of_choose (by decide) hchoose
  have htwo : toString (1 + 1) = "2" := by
    cbv
  rw [htwo] at hanswer
  have hmenu : Frame.branches .twins = ["  1. Left", "  2. Right"] := by
    cbv
  have hframe := lines_of_choicesVisible hvisible hnode
  rw [hmenu] at hframe
  refine ⟨player, hreach, hvisible, hnode, hframe, ⟨_, hright, ?_⟩, _, hanswer, ?_, ?_⟩
  · rw [take_playback]
    rfl
  · rw [withHistory, take_playback]
    rfl
  · cbv

end Player
end VisualNovel
