import Mathlib
import VisualNovel.Proofs.Playback.Agreement
import VisualNovel.Proofs.Playback.InPlace

/-!
# Calls

All that can be asked of a playback that moves it is a `Call`. A call that moves along the story
departs as a reader (`Playback.Departs`) and lands where that reader halts, a load restores what a
save holds, and every other call leaves the playback as it was. `Playback.Departs.call_eq` and
`Playback.moves_of_call` say so; later modules use them instead of the operations themselves. That a
call which fails changes nothing in place is `Playback.after_of_error`.
-/

namespace VisualNovel

/-- What can be asked of a playback. -/
inductive Call where
  | advance
  | choose (branchId : String)
  | jump (sceneId : String)
  | restart
  | load (save : Save)

/-- The movement that carries out a call. -/
def Call.action : Call → Playback.Action Step
  | .advance => .advance
  | .choose branchId => .choose branchId
  | .jump sceneId => .jump sceneId
  | .restart => .restart
  | .load save => .load save

/-- Every call leaves the playback as it was if it fails. -/
theorem Call.action_atomic : ∀ call : Call, call.action.Atomic
  | .advance => Playback.Action.advance_atomic
  | .choose branchId => Playback.Action.choose_atomic branchId
  | .jump sceneId => Playback.Action.jump_atomic sceneId
  | .restart => Playback.Action.restart_atomic
  | .load save => Playback.Action.load_atomic save

namespace Playback

/-- What a call leads to. -/
def call (playback : Playback) : Call → Except PlaybackError (Playback × Step)
  | .advance => playback.advance
  | .choose branchId => playback.choose branchId
  | .jump sceneId => playback.jump sceneId
  | .restart => playback.restart
  | .load save => playback.load save

/-- The playback after a call, be it successful or not. -/
def after (playback : Playback) (call : Call) : Playback :=
  (call.action.run playback).2

theorem call_eq_on (playback : Playback) (call : Call) :
    playback.call call = call.action.on playback := by
  cases call <;> rfl

/-- A call that succeeds leaves what it leads to. -/
theorem after_of_ok {playback : Playback} {call : Call} {moved : Playback × Step}
    (h : playback.call call = .ok moved) : playback.after call = moved.1 := by
  rw [after, call.action_atomic.run_eq, ← call_eq_on, h]

/-- A call that fails leaves the playback as it was. -/
theorem after_of_error {playback : Playback} {call : Call} {e : PlaybackError}
    (h : playback.call call = .error e) : playback.after call = playback := by
  rw [after, call.action_atomic.run_eq, ← call_eq_on, h]

/-- What a successful call shows of where it ended. -/
def landingOf (moved : Playback × Step) : Landing :=
  ⟨moved.1.cursor, moved.1.shown, moved.2.cues⟩

/-- At a choice means that the current node is one. -/
theorem atChoice_iff {playback : Playback} :
    playback.atChoice = true ↔ ∃ menu, playback.currentNode? = some (.choice menu) := by
  simp only [atChoice]
  cases playback.currentNode? with
  | none => simp
  | some node => cases node <;> simp [Node.isChoice]

/-! ## Departures -/

/-- How a call sets out along the story: before the next node of the scene, or before the first
node of the scene that it goes to. A restart first stops the music. -/
inductive Departs (playback : Playback) : Call → Reader → Cues → Prop
  | advance {scene : Scene} (hscene : playback.novel.scene? playback.cursor.sceneId = some scene)
      (hmore : playback.cursor.nodeIndex < scene.lastIndex) (hchoice : playback.atChoice = false) :
      Departs playback .advance
        ⟨playback.cursor.sceneId, playback.cursor.nodeIndex + 1, playback.shown⟩ .none
  | choose {choice : Choice} {branch : Branch} {branchId : String}
      (hnode : playback.currentNode? = some (.choice choice))
      (hbranch : choice.branch? branchId = some branch) :
      Departs playback (.choose branchId) (.before branch.targetSceneId playback.shown.bgm) .none
  | jump (sceneId : String) :
      Departs playback (.jump sceneId) (.before sceneId playback.shown.bgm) .none
  | restart :
      Departs playback .restart (.before playback.novel.startSceneId none)
        (if playback.shown.bgm.isSome then .command .stopBgm else .none)

/-- The history to which a call adds where it lands: a choice is noted first, and a restart
forgets what was. -/
def noted (playback : Playback) : Call → History
  | .choose branchId =>
    match playback.currentNode? with
    | some (.choice choice) =>
      match choice.branch? branchId with
      | some branch =>
        playback.history.push (.choiceMade choice.prompt branch.text playback.clock.unix)
      | none => playback.history
    | _ => playback.history
  | .restart => playback.history.clear
  | .advance | .jump _ | .load _ => playback.history

section
variable {playback : Playback} {call : Call} {reader : Reader} {cues : Cues}

/-- A call that departs lands where the reader halts. -/
theorem Departs.call_eq (hdep : playback.Departs call reader cues) :
    ∃ result entered, reader.Agrees playback.novel cues result ∧
      (call ≠ .advance → entered = true) ∧
      playback.call call = result.map fun landing =>
        { playback with history := playback.noted call }.land landing entered := by
  cases hdep with
  | choose hnode hbranch =>
    refine ⟨_, true, Novel.enter_agrees _ _ _ _, fun _ => rfl, ?_⟩
    simp only [Playback.call, choose_eq, hnode, hbranch, noted]
  | jump sceneId =>
    exact ⟨_, true, Novel.enter_agrees _ _ _ _, fun _ => rfl, jump_eq _ _⟩
  | restart =>
    exact ⟨_, true, Novel.enter_agrees _ _ _ _, fun _ => rfl, restart_eq _⟩
  | @advance scene hscene hmore hchoice =>
    have hne : scene.nodes ≠ [] := by
      intro hnil
      simp [Scene.lastIndex, hnil] at hmore
    have hstay : ¬(scene.lastIndex ≤ playback.cursor.nodeIndex || playback.atChoice) = true := by
      simp [hchoice, hmore]
    obtain ⟨k, -, hrun⟩ := Reader.run_walk playback.shown .none hscene hne
      (i := playback.cursor.nodeIndex + 1) rfl
    simp only [Playback.call, advance_eq, hscene, if_neg hstay, noted]
    generalize playback.novel.walk _ _ _ _ = walk at hrun ⊢
    simp only [Walk.resume] at hrun
    cases hend : walk.ending with
    | halted i =>
      simp only [hend] at hrun
      exact ⟨.ok _, false, .of_ok (hrun 0), fun h => absurd rfl h, rfl⟩
    | ranOut =>
      simp only [hend] at hrun
      exact ⟨.ok _, false, .of_ok (hrun 0), fun h => absurd rfl h, rfl⟩
    | left target =>
      simp only [hend] at hrun
      exact ⟨_, true, .of_run hrun (Novel.enter_agrees _ _ _ _), fun _ => rfl, rfl⟩

end

/-! ## What a successful call does -/

/-- The playback that has gone back to a save. -/
def loaded (playback : Playback) (save : Save) : Playback :=
  { playback with cursor := save.cursor, shown := { stage := save.stage, bgm := save.bgm } }

/-- What a call can lead to. -/
inductive Moves (playback : Playback) : Call → Playback × Step → Prop
  /-- At the last node and at a choice there is nothing to go on to. -/
  | stays {scene : Scene} (hscene : playback.novel.scene? playback.cursor.sceneId = some scene)
      (hstay : scene.lastIndex ≤ playback.cursor.nodeIndex ∨ playback.atChoice = true) :
      Moves playback .advance (playback, playback.idle)
  /-- The playback lands where a reader halts. -/
  | lands {call : Call} {reader : Reader} {cues : Cues} {n : Nat} {landing : Landing}
      {entered : Bool} (hdep : playback.Departs call reader cues)
      (hrun : reader.run playback.novel n cues = some (.ok landing))
      (hentered : call ≠ .advance → entered = true) :
      Moves playback call
        ({ playback with history := playback.noted call }.land landing entered)
  /-- The place that a save names is one of the novel. -/
  | loads {save : Save} {scene : Scene} (hscene : playback.novel.scene? save.sceneId = some scene)
      (hindex : save.nodeIndex < scene.nodes.length) :
      Moves playback (.load save)
        (playback.loaded save,
          ⟨.command (musicCommand save.bgm), (playback.loaded save).waiting, true⟩)

section
variable {playback : Playback} {call : Call} {reader : Reader} {cues : Cues}
  {moved : Playback × Step}

/-- A call that departs and succeeds has landed. -/
theorem Departs.moves (hdep : playback.Departs call reader cues)
    (h : playback.call call = .ok moved) : playback.Moves call moved := by
  obtain ⟨result, entered, hagrees, hentered, heq⟩ := hdep.call_eq
  rw [heq] at h
  cases result with
  | error e => cases h
  | ok landing =>
    cases h
    obtain ⟨n, hrun⟩ := hagrees
    exact .lands hdep hrun hentered

theorem moves_of_load {save : Save} (h : playback.load save = .ok moved) :
    playback.Moves (.load save) moved := by
  simp only [load_eq] at h
  split at h
  · cases h
  · next scene hscene =>
    split at h
    · cases h
    · next hindex =>
      cases h
      exact .loads hscene (Nat.lt_of_not_le hindex)

/-- What a successful call does. -/
theorem moves_of_call (h : playback.call call = .ok moved) : playback.Moves call moved := by
  cases call with
  | load save => exact moves_of_load h
  | jump sceneId => exact (Departs.jump sceneId).moves h
  | restart => exact Departs.restart.moves h
  | choose branchId =>
    have hchoose : playback.choose branchId = .ok moved := h
    simp only [choose_eq] at hchoose
    split at hchoose
    · next choice hnode =>
      split at hchoose
      · cases hchoose
      · next branch hbranch => exact (Departs.choose hnode hbranch).moves h
    · cases hchoose
  | advance =>
    have hadvance : playback.advance = .ok moved := h
    simp only [advance_eq] at hadvance
    split at hadvance
    · cases hadvance
    · next scene hscene =>
      split at hadvance
      · next hstay =>
        cases hadvance
        exact .stays hscene (by simpa using hstay)
      · next hmove =>
        simp only [Bool.or_eq_true, decide_eq_true_eq, not_or, Nat.not_le,
          Bool.not_eq_true] at hmove
        exact (Departs.advance hscene hmove.1 hmove.2).moves h

/-- No call changes the novel. -/
theorem Moves.novel_eq (h : playback.Moves call moved) : moved.1.novel = playback.novel := by
  cases h with
  | stays | lands | loads => rfl

/-- A start enters the start scene of a novel with scenes. -/
theorem start_eq_map {novel : Novel} (hscenes : novel.scenes ≠ []) (clock : Instant) :
    start novel clock = (novel.enter novel.startSceneId none .none).map fun landing =>
      (blank novel clock).land landing true := by
  simp only [start, List.isEmpty_iff, if_neg hscenes]
  cases novel.enter novel.startSceneId none .none <;> rfl

/-- A fresh start lands where the reader before the start scene halts. -/
theorem start_eq {novel : Novel} (hscenes : novel.scenes ≠ []) (clock : Instant) :
    ∃ result, (Reader.before novel.startSceneId none).Agrees novel .none result ∧
      start novel clock = result.map fun landing => (blank novel clock).land landing true :=
  ⟨_, Novel.enter_agrees _ _ _ _, start_eq_map hscenes clock⟩

theorem scenes_ne_nil_of_start {novel : Novel} {clock : Instant} (h : start novel clock = .ok moved) :
    novel.scenes ≠ [] := by
  intro hnil
  simp [start, hnil] at h

/-- A start lands in a scene that it enters. -/
theorem exists_land_of_start {novel : Novel} {clock : Instant} (h : start novel clock = .ok moved) :
    ∃ landing, moved = (blank novel clock).land landing true := by
  rw [start_eq_map (scenes_ne_nil_of_start h)] at h
  cases henter : novel.enter novel.startSceneId none .none with
  | error e =>
    rw [henter] at h
    cases h
  | ok landing =>
    rw [henter] at h
    cases h
    exact ⟨landing, rfl⟩

/-- Where a start has landed. -/
theorem run_of_start {novel : Novel} {clock : Instant} (h : start novel clock = .ok moved) :
    moved.1.novel = novel ∧ ∃ n, (Reader.before novel.startSceneId none).run novel n .none
      = some (.ok (landingOf moved)) := by
  have hscenes := scenes_ne_nil_of_start h
  obtain ⟨result, hagrees, heq⟩ := start_eq hscenes clock
  rw [heq] at h
  cases result with
  | error e => cases h
  | ok landing =>
    cases h
    exact ⟨rfl, hagrees⟩

end
end Playback

/-! ## A small novel -/

/-- From the hall one can only go out, through the gate, to the road, which leads back. -/
def Novel.stroll : Novel :=
  { id := "stroll", title := "Stroll", author := "", description := "", coverImageUrl := none
    characters := [⟨"ann", "ann", "Ann", "", []⟩], backgrounds := []
    audio := [⟨"song", "song", .bgm, ""⟩]
    chapters := [⟨"one", "One", [
      ⟨"hall", "Hall", [.audio ⟨"h1", "song", .play⟩, .dialogue ⟨"h2", "ann", none, "Out?"⟩,
        .choice ⟨"h3", none, [⟨"out", "Out", "gate", none⟩]⟩]⟩,
      ⟨"gate", "Gate", [.audio ⟨"g1", "song", .fadeOut⟩, .jump ⟨"g2", "road"⟩]⟩,
      ⟨"road", "Road", [.character ⟨"r1", "ann", .enter, some .left, none⟩,
        .narration ⟨"r2", "Rain."⟩, .jump ⟨"r3", "hall"⟩]⟩]⟩]
    startSceneId := "hall", createdAt := none, updatedAt := none }

namespace Playback

/-- The stroll begins with the words of its first speaker. -/
def strollStart : Playback × Step :=
  (blank .stroll (.ofUnix 0)).land
    ⟨⟨"hall", 1⟩, ⟨⟨[⟨"ann", .center, none⟩], none⟩, some "song"⟩, .command (.playBgm "song")⟩ true

theorem start_stroll : start .stroll (.ofUnix 0) = .ok strollStart := by
  cbv

/-- The stroll at its choice. -/
def strollChoice : Playback :=
  strollStart.1.after .advance

end Playback
end VisualNovel
